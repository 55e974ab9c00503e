import ZkSettle.Gateway.KeyStore

/-!
# Tenancy

The logins, the tenants and the keys of the gateway as one system. A login that has shown its
message asks the database for its tenant, with up to three statements, and is handed a session
token. A request for keys is made with such a token or as the administrator, and sends one
statement or two. Between any two statements come those of all the others.
-/
namespace ZkSettle.Gateway.Tenancy

open Checks Program

/-! ## `find_or_create` -/

/-- What a statement is answered, and what a handler draws from outside: the time, a new
identifier, random bytes; `detail` is the text of a violated constraint. -/
structure Answers where
  now : Nat
  uuid : String
  random : Bytes32
  fault : Option String
  detail : String

/-- The statement that `find_or_create` has come to. -/
inductive Upsert where
  | finding
  | inserting
  | rereading
  | found (result : Except GatewayError TenantRow)

def Upsert.advance (db : Database) (wallet : String) (now : Nat) (answers : Answers) :
    Upsert → Except Unit (Database × Upsert)
  | .finding =>
    match answers.fault with
    | some message => .ok (db, .found (.error (.database message)))
    | none =>
      match findByWallet db wallet with
      | some existing => .ok (db, .found (.ok existing))
      | none => .ok (db, .inserting)
  | .inserting =>
    match answers.fault with
    | some message => .ok (db, .found (.error (.database message)))
    | none =>
      match insertTenant db (newTenant answers.uuid wallet now) with
      | some db => .ok (db, .rereading)
      | none => .ok (db, .found (.error (.database answers.detail)))
  | .rereading =>
    match answers.fault with
    | some message => .ok (db, .found (.error (.database message)))
    | none =>
      match findByWallet db wallet with
      | some row => .ok (db, .found (.ok row))
      | none =>
        .ok (db, .found (.error (.database "tenant upsert: wallet not found after insert")))
  | .found _ => .error ()

/-! ## Requests for keys -/

inductive Handler where
  /-- `create_key`, with the owner that the body names -/
  | createKey (owner : String)
  | listKeys
  | deleteKey (keyHash : String)

inductive Response where
  | created (apiKey : String) (tier : Tier) (owner : String)
  | listed (keys : List ApiKeyRecord)
  | deleted (keyHash : String)

/-- Who a request was admitted as. -/
inductive Authority where
  | tenant (tenant : AuthenticatedTenant)
  | administrator
  deriving DecidableEq

/-- The rows that an authority may see and remove. -/
def Authority.scope : Authority → Option String
  | .tenant session => some session.tenantId
  | .administrator => none

/-- The statement that a request has come to. -/
inductive KeyStage where
  | entered
  | finding (tenant : AuthenticatedTenant) (rawKey : String) (now : Nat)
  | inserting (rawKey : String) (tier : Tier) (row : KeyRow)
  | ended (result : Except Refusal Response)

/-- `authority` is for the statements: the code does not keep it. -/
structure KeyCall where
  handler : Handler
  headers : HeaderMap
  session : Option String
  stage : KeyStage
  authority : Option Authority

def KeyCall.begin (handler : Handler) (headers : HeaderMap) (session : Option String) :
    KeyCall where
  handler
  headers
  session
  stage := .entered
  authority := none

/-- `MaybeAuthenticatedTenant`, and the check of the administrator where it finds no tenant. -/
def authorize (jwt : Jwt) (settings : Settings) (call : KeyCall) (now : Nat) :
    Except Refusal Authority :=
  match authenticateTenant jwt settings call.session now with
  | .ok tenant => .ok (.tenant tenant)
  | .error _ => (verifyAdmin settings call.headers).map fun _ => .administrator

/-- `sort_by` the time, the latest first. -/
def latestFirst (records : List ApiKeyRecord) : List ApiKeyRecord :=
  records.insertionSort fun a b => b.createdAt ≤ a.createdAt

def keyRow (rawKey owner : String) (tier : Tier) (now : Nat) (tenantId : Option String) :
    KeyRow where
  keyHash := hashKey rawKey
  owner
  tier := tierText tier
  createdAt := now
  tenantId

/-- What a handler does first, once it knows who asks. -/
def KeyCall.start (db : Database) (answers : Answers) (call : KeyCall) (authority : Authority) :
    Database × KeyStage :=
  match call.handler, answers.fault with
  | .createKey owner, _ =>
    let rawKey := generateKey answers.random
    match authority with
    | .tenant session => (db, .finding session rawKey answers.now)
    | .administrator =>
      (db, .inserting rawKey .developer (keyRow rawKey owner .developer answers.now none))
  | .listKeys, none =>
    let records := match authority with
      | .tenant session => listByTenant db session.tenantId
      | .administrator => listAll db
    (db, .ended (records.map fun records => .listed (latestFirst records)))
  | .deleteKey keyHash, none =>
    match removeKey db keyHash authority.scope with
    | (db, true) => (db, .ended (.ok (.deleted keyHash)))
    | (db, false) => (db, .ended (.error .notFound))
  | _, some message => (db, .ended (.error (.database message)))

/-- A handler from one statement to the next. -/
def KeyCall.advance (jwt : Jwt) (settings : Settings) (db : Database) (answers : Answers)
    (call : KeyCall) : Except Unit (Database × KeyCall) :=
  match call.stage with
  | .entered =>
    match authorize jwt settings call answers.now with
    | .error refusal => .ok (db, { call with stage := .ended (.error refusal) })
    | .ok authority =>
      let (db, stage) := call.start db answers authority
      .ok (db, { call with stage, authority := some authority })
  | .finding tenant rawKey now =>
    match answers.fault, findById db tenant.tenantId with
    | some message, _ => .ok (db, { call with stage := .ended (.error (.database message)) })
    | none, none => .ok (db, { call with stage := .ended (.error .unauthorized) })
    | none, some record =>
      -- a tier that cannot be read is the lowest one
      let tier := (parseTier record.tier).toOption.getD .developer
      let row := keyRow rawKey tenant.wallet tier now (some tenant.tenantId)
      .ok (db, { call with stage := .inserting rawKey tier row })
  | .inserting rawKey tier row =>
    match answers.fault, insertKey db row with
    | some message, _ => .ok (db, { call with stage := .ended (.error (.database message)) })
    | none, none => .ok (db, { call with stage := .ended (.error (.database answers.detail)) })
    | none, some db =>
      .ok (db, { call with stage := .ended (.ok (.created rawKey tier row.owner)) })
  | .ended _ => .error ()

/-! ## All of them -/

/-- `upserts` has an entry for each login. -/
structure System where
  signIn : SignIn.System
  upserts : List Upsert
  db : Database
  calls : List KeyCall

def System.start (clock : Nat) : System where
  signIn := .start clock
  upserts := []
  db := .empty
  calls := []

inductive Action where
  /-- a step of the logins, other than at the database -/
  | signIn (action : SignIn.Action)
  | upsert (id : Nat) (answers : Answers)
  /-- the end of a login, at a time -/
  | finish (id now : Nat)
  | request (handler : Handler) (headers : HeaderMap) (session : Option String)
  | resume (id : Nat) (answers : Answers)

/-- The step is one of a login that waits for its tenant. -/
def AtDatabase (s : SignIn.System) : SignIn.Action → Bool
  | .advance id _ =>
    match s.logins[id]? with
    | some { stage := .verified .., .. } => true
    | _ => false
  | _ => false

/-- A new login has still to ask for its tenant. -/
def enroll (upserts : List Upsert) : SignIn.Action → List Upsert
  | .arrive _ => upserts ++ [.finding]
  | _ => upserts

def TenantRow.toTenant (row : TenantRow) : SignIn.Tenant where
  id := row.id
  wallet := row.wallet
  tier := row.tier

/-- What a login learns from the database and the encoder. -/
def loginAnswers (jwt : Jwt) (settings : Settings) (result : Except GatewayError TenantRow)
    (now : Nat) : SignIn.Answers where
  permitted := true
  now
  tenant := result.map TenantRow.toTenant
  token := do
    let row ← result
    let secret ← okOr settings.jwtSecret (.config "jwt_secret not configured")
    issue jwt row.id row.wallet secret settings.jwtTtlSecs now

def step (standard : Base64.Engine) (ed : Ed25519) (jwt : Jwt) (settings : Settings)
    (s : System) : Action → Except Unit System
  | .signIn action =>
    if AtDatabase s.signIn action then .error ()
    else do
      let signIn ← SignIn.step standard ed settings.toConfig s.signIn action
      .ok { s with signIn, upserts := enroll s.upserts action }
  | .upsert id answers =>
    match s.signIn.logins[id]?, s.upserts[id]? with
    | some { body, stage := .verified _ _ now, .. }, some upsert => do
      let (db, upsert) ← upsert.advance s.db body.account now answers
      .ok { s with db, upserts := s.upserts.set id upsert }
    | _, _ => .error ()
  | .finish id now =>
    match s.signIn.logins[id]?, s.upserts[id]? with
    | some { stage := .verified .., .. }, some (.found result) => do
      let signIn ← SignIn.step standard ed settings.toConfig s.signIn
        (.advance id (loginAnswers jwt settings result now))
      .ok { s with signIn }
    | _, _ => .error ()
  | .request handler headers session =>
    .ok { s with calls := s.calls ++ [.begin handler headers session] }
  | .resume id answers =>
    match s.calls[id]? with
    | none => .error ()
    | some call => do
      let (db, call) ← call.advance jwt settings s.db answers
      .ok { s with db, calls := s.calls.set id call }

def run (standard : Base64.Engine) (ed : Ed25519) (jwt : Jwt) (settings : Settings)
    (s : System) (actions : List Action) : System :=
  Transactional.run (step standard ed jwt settings) s actions

/-- A challenge is not one that was handed out before. -/
def Fresh (s : System) : Action → Prop
  | .signIn action => SignIn.Fresh s.signIn action
  | _ => True

/-! ## What a statement does -/

theorem mem_of_findByWallet {db : Database} {wallet : String} {row : TenantRow}
    (found : findByWallet db wallet = some row) : row ∈ db.tenants ∧ row.wallet = wallet :=
  ⟨List.mem_of_find?_eq_some found, by simpa using List.find?_some found⟩

/-- The row is not in the table before, and no constraint is against it. -/
structure Insertable (db : Database) (row : TenantRow) : Prop where
  wallet : row.wallet ∉ db.tenants.map TenantRow.wallet
  id : row.id ∉ db.tenants.map TenantRow.id

theorem insertTenant_cases {db next : Database} {row : TenantRow}
    (inserted : insertTenant db row = some next) :
    next = db ∨ Insertable db row ∧ next = { db with tenants := db.tenants ++ [row] } := by
  rw [insertTenant] at inserted
  split at inserted
  next => exact Or.inl (Option.some.inj inserted).symm
  next absent =>
    split at inserted
    next => cases inserted
    next unused =>
      refine Or.inr ⟨⟨?_, ?_⟩, (Option.some.inj inserted).symm⟩
      · simpa using absent
      · simpa using unused

/-- What `find_or_create` does with one statement. -/
inductive Upserted (db : Database) (wallet : String) : Database → Upsert → Prop where
  | moved (upsert : Upsert) (pending : ∀ row, upsert ≠ .found (.ok row)) :
      Upserted db wallet db upsert
  | found (row : TenantRow) (member : row ∈ db.tenants) (own : row.wallet = wallet) :
      Upserted db wallet db (.found (.ok row))
  | inserted (row : TenantRow) (insertable : Insertable db row) (lowest : row.tier = "developer") :
      Upserted db wallet { db with tenants := db.tenants ++ [row] } .rereading

theorem Upsert.advance_upserted {db db' : Database} {wallet : String} {now : Nat}
    {answers : Answers} {upsert upsert' : Upsert}
    (advanced : upsert.advance db wallet now answers = .ok (db', upsert')) :
    Upserted db wallet db' upsert' := by
  cases upsert with
  | finding =>
    simp only [Upsert.advance] at advanced
    split at advanced
    · cases advanced
      exact .moved _ (by simp)
    · split at advanced
      next found =>
        cases advanced
        obtain ⟨member, own⟩ := mem_of_findByWallet found
        exact .found _ member own
      next =>
        cases advanced
        exact .moved _ (by simp)
  | inserting =>
    simp only [Upsert.advance] at advanced
    split at advanced
    · cases advanced
      exact .moved _ (by simp)
    · split at advanced
      next inserted =>
        cases advanced
        rcases insertTenant_cases inserted with rfl | ⟨insertable, rfl⟩
        · exact .moved _ (by simp)
        · exact .inserted _ insertable rfl
      next =>
        cases advanced
        exact .moved _ (by simp)
  | rereading =>
    simp only [Upsert.advance] at advanced
    split at advanced
    · cases advanced
      exact .moved _ (by simp)
    · split at advanced
      next found =>
        cases advanced
        obtain ⟨member, own⟩ := mem_of_findByWallet found
        exact .found _ member own
      next =>
        cases advanced
        exact .moved _ (by simp)
  | found result => cases advanced

/-- No key has the hash of the row, and the tenant that it names is there. -/
structure Acceptable (db : Database) (row : KeyRow) : Prop where
  hash : row.keyHash ∉ db.apiKeys.map KeyRow.keyHash
  tenant : ∀ id, row.tenantId = some id → ∃ tenant ∈ db.tenants, tenant.id = id

theorem insertKey_eq_some {db next : Database} {row : KeyRow}
    (inserted : insertKey db row = some next) :
    Acceptable db row ∧ next = { db with apiKeys := db.apiKeys ++ [row] } := by
  rw [insertKey] at inserted
  split at inserted
  next => cases inserted
  next absent =>
    split at inserted
    next known =>
      refine ⟨⟨by simpa using absent, fun id names => ?_⟩, (Option.some.inj inserted).symm⟩
      simpa [names] using known
    next => cases inserted

/-- The rows of a scope: those of one tenant, or all. -/
def InScope (scope : Option String) (key : KeyRow) : Prop :=
  ∀ id, scope = some id → key.tenantId = some id

theorem named_iff {keyHash : String} {scope : Option String} {key : KeyRow} :
    Named keyHash scope key = true ↔ key.keyHash = keyHash ∧ InScope scope key := by
  cases scope with
  | none => simp [Named, InScope]
  | some id => simp [Named, InScope]

theorem mem_removeKey {db : Database} {keyHash : String} {scope : Option String} {key : KeyRow} :
    key ∈ (removeKey db keyHash scope).1.apiKeys ↔
      key ∈ db.apiKeys ∧ ¬ (key.keyHash = keyHash ∧ InScope scope key) := by
  simp [removeKey, ← named_iff]

theorem removeKey_absent {db db' : Database} {keyHash : String} {scope : Option String}
    (removed : removeKey db keyHash scope = (db', false)) : db' = db := by
  obtain ⟨rest, none⟩ := Prod.mk.inj removed
  have all : db.apiKeys.filter (fun key => !Named keyHash scope key) = db.apiKeys := by
    refine List.filter_eq_self.mpr fun key member => ?_
    simpa using (List.any_eq_false.mp none) key member
  rw [← rest, all]

theorem removeKey_present {db db' : Database} {keyHash : String} {scope : Option String}
    (removed : removeKey db keyHash scope = (db', true)) :
    db' = (removeKey db keyHash scope).1 ∧
      ∃ key ∈ db.apiKeys, key.keyHash = keyHash ∧ InScope scope key := by
  obtain ⟨rest, some⟩ := Prod.mk.inj removed
  obtain ⟨key, member, named⟩ := List.any_eq_true.mp some
  exact ⟨rest.symm, key, member, named_iff.mp named⟩

/-! ## What a request has shown -/

section Requests

variable {jwt : Jwt} {settings : Settings}

/-- The token is the session of the request, and decodes to the tenant. -/
structure Bears (jwt : Jwt) (settings : Settings) (session : Option String) (token : String)
    (tenant : AuthenticatedTenant) : Prop where
  sent : session = some token
  decodes : ∃ secret now claims, settings.jwtSecret = some secret ∧
    jwt.decode token secret now = some claims ∧ tenant = ⟨claims.sub, claims.wallet⟩

theorem authenticateTenant_ok {session : Option String} {now : Nat} {tenant : AuthenticatedTenant}
    (authenticated : authenticateTenant jwt settings session now = .ok tenant) :
    ∃ token, Bears jwt settings session token tenant := by
  simp only [authenticateTenant, bind_eq_ok, okOr_eq_ok, pure_eq_ok] at authenticated
  obtain ⟨secret, configured, token, sent, claims, decoded, rfl⟩ := authenticated
  exact ⟨token, sent, secret, now, claims, configured, decoded, rfl⟩

/-- What stands behind an authority. -/
def Admits (jwt : Jwt) (settings : Settings) (call : KeyCall) : Authority → Prop
  | .tenant tenant => ∃ token, Bears jwt settings call.session token tenant
  | .administrator => Administers settings call.headers

theorem admit_ok {call : KeyCall} {now : Nat} {authority : Authority}
    (admitted : authorize jwt settings call now = .ok authority) :
    Admits jwt settings call authority := by
  rw [authorize] at admitted
  split at admitted
  next tenant authenticated =>
    cases admitted
    exact authenticateTenant_ok authenticated
  next =>
    obtain ⟨⟨⟩, verified, rfl⟩ := map_eq_ok.mp admitted
    exact verifyAdmin_ok verified

/-- The row is the one that a creation writes for an authority: for the wallet of a session,
or for the owner that the administrator names. -/
structure Writes (handler : Handler) (authority : Authority) (rawKey : String) (tier : Tier)
    (row : KeyRow) : Prop where
  generated : ∃ bytes, rawKey = generateKey bytes
  hash : row.keyHash = hashKey rawKey
  tier : row.tier = tierText tier
  tenant : row.tenantId = authority.scope
  owner : match authority with
    | .tenant tenant => row.owner = tenant.wallet
    | .administrator => handler = .createKey row.owner

/-- What is known of a request at its stage. -/
def StageSound (call : KeyCall) : Prop :=
  match call.stage with
  | .entered => call.authority = none
  | .finding tenant rawKey _ =>
    call.authority = some (.tenant tenant) ∧ ∃ bytes, rawKey = generateKey bytes
  | .inserting rawKey tier row =>
    ∃ authority, call.authority = some authority ∧ Writes call.handler authority rawKey tier row
  | .ended (.ok (.created rawKey tier owner)) =>
    ∃ authority row, call.authority = some authority ∧
      Writes call.handler authority rawKey tier row ∧ row.owner = owner
  | .ended _ => True

structure Sound (jwt : Jwt) (settings : Settings) (call : KeyCall) : Prop where
  admitted : ∀ authority, call.authority = some authority → Admits jwt settings call authority
  stage : StageSound call

theorem sound_begin (handler : Handler) (headers : HeaderMap) (session : Option String) :
    Sound jwt settings (.begin handler headers session) where
  admitted := by rintro authority ⟨⟩
  stage := rfl

theorem start_stage {db : Database} {answers : Answers} {call : KeyCall} (authority : Authority) :
    StageSound { call with
      stage := (call.start db answers authority).2, authority := some authority } := by
  obtain ⟨handler, headers, session, stage, before⟩ := call
  cases handler with
  | createKey owner =>
    cases authority with
    | tenant session => exact ⟨rfl, answers.random, rfl⟩
    | administrator => exact ⟨.administrator, rfl, ⟨answers.random, rfl⟩, rfl, rfl, rfl, rfl⟩
  | listKeys =>
    cases fault : answers.fault with
    | some message => simp [KeyCall.start, fault, StageSound]
    | none =>
      simp only [KeyCall.start, fault, StageSound]
      cases listing : (match authority with
        | .tenant session => listByTenant db session.tenantId
        | .administrator => listAll db) with
      | error refusal => trivial
      | ok records => trivial
  | deleteKey keyHash =>
    cases fault : answers.fault with
    | some message => simp [KeyCall.start, fault, StageSound]
    | none =>
      simp only [KeyCall.start, fault, StageSound]
      rcases removal : removeKey db keyHash authority.scope with ⟨rest, removed⟩
      cases removed with
      | true => trivial
      | false => trivial

theorem Sound.advance {db db' : Database} {answers : Answers} {call call' : KeyCall}
    (sound : Sound jwt settings call)
    (advanced : call.advance jwt settings db answers = .ok (db', call')) :
    Sound jwt settings call' := by
  obtain ⟨handler, headers, session, stage, authority⟩ := call
  cases stage with
  | entered =>
    simp only [KeyCall.advance] at advanced
    split at advanced
    next refusal refused =>
      cases advanced
      exact ⟨sound.admitted, trivial⟩
    next authority' admitted =>
      cases advanced
      refine ⟨?_, start_stage authority'⟩
      rintro _ ⟨⟩
      -- who a request is admitted as does not depend on where it stands
      have shown := admit_ok admitted
      cases authority' with
      | tenant tenant => exact shown
      | administrator => exact shown
  | finding tenant rawKey now =>
    obtain ⟨admitted, generated⟩ := sound.stage
    simp only [KeyCall.advance] at advanced
    split at advanced
    · cases advanced
      exact ⟨sound.admitted, trivial⟩
    · cases advanced
      exact ⟨sound.admitted, trivial⟩
    · cases advanced
      exact ⟨sound.admitted, .tenant tenant, admitted, generated, rfl, rfl, rfl, rfl⟩
  | inserting rawKey tier row =>
    obtain ⟨authority', admitted, writes⟩ := sound.stage
    simp only [KeyCall.advance] at advanced
    split at advanced
    · cases advanced
      exact ⟨sound.admitted, trivial⟩
    · cases advanced
      exact ⟨sound.admitted, trivial⟩
    · cases advanced
      exact ⟨sound.admitted, authority', row, admitted, writes, rfl⟩
  | ended result => cases advanced

/-- What a statement of a request does to the table of keys, and what it is answered. -/
inductive Effect (db : Database) (call : KeyCall) : Database → KeyCall → Prop where
  | none (call' : KeyCall) (same : call'.handler = call.handler ∧ call'.session = call.session)
      (quiet : ∀ response, call'.stage ≠ .ended (.ok response)) : Effect db call db call'
  | listed (authority : Authority) (records : List ApiKeyRecord)
      (listing : (match authority with
        | .tenant session => listByTenant db session.tenantId
        | .administrator => listAll db) = .ok records) :
      Effect db call db { call with
        stage := .ended (.ok (.listed (latestFirst records))), authority := some authority }
  | removed (authority : Authority) (keyHash : String) (key : KeyRow) (member : key ∈ db.apiKeys)
      (named : key.keyHash = keyHash) (inScope : InScope authority.scope key) :
      Effect db call (removeKey db keyHash authority.scope).1 { call with
        stage := .ended (.ok (.deleted keyHash)), authority := some authority }
  | created (rawKey : String) (tier : Tier) (row : KeyRow)
      (inserting : call.stage = .inserting rawKey tier row) (acceptable : Acceptable db row) :
      Effect db call { db with apiKeys := db.apiKeys ++ [row] } { call with
        stage := .ended (.ok (.created rawKey tier row.owner)) }

theorem start_effect {db : Database} {answers : Answers} {call : KeyCall}
    (authority : Authority) :
    Effect db call (call.start db answers authority).1 { call with
      stage := (call.start db answers authority).2, authority := some authority } := by
  obtain ⟨handler, headers, session, stage, before⟩ := call
  cases handler with
  | createKey owner =>
    cases authority with
    | tenant session => exact .none _ ⟨rfl, rfl⟩ (by simp [KeyCall.start])
    | administrator => exact .none _ ⟨rfl, rfl⟩ (by simp [KeyCall.start])
  | listKeys =>
    cases fault : answers.fault with
    | some message =>
      simp only [KeyCall.start, fault]
      exact .none _ ⟨rfl, rfl⟩ (by simp)
    | none =>
      simp only [KeyCall.start, fault]
      cases listing : (match authority with
        | .tenant session => listByTenant db session.tenantId
        | .administrator => listAll db) with
      | error refusal => exact .none _ ⟨rfl, rfl⟩ (by simp [Except.map])
      | ok records => exact .listed authority records listing
  | deleteKey keyHash =>
    cases fault : answers.fault with
    | some message =>
      simp only [KeyCall.start, fault]
      exact .none _ ⟨rfl, rfl⟩ (by simp)
    | none =>
      simp only [KeyCall.start, fault]
      rcases removal : removeKey db keyHash authority.scope with ⟨rest, present⟩
      cases present with
      | true =>
        obtain ⟨rfl, key, member, named, inScope⟩ := removeKey_present removal
        exact .removed authority keyHash key member named inScope
      | false =>
        obtain rfl := removeKey_absent removal
        exact .none _ ⟨rfl, rfl⟩ (by simp)

theorem KeyCall.advance_effect {db db' : Database} {answers : Answers} {call call' : KeyCall}
    (advanced : call.advance jwt settings db answers = .ok (db', call')) :
    Effect db call db' call' := by
  obtain ⟨handler, headers, session, stage, authority⟩ := call
  cases stage with
  | entered =>
    simp only [KeyCall.advance] at advanced
    split at advanced
    · cases advanced
      exact .none _ ⟨rfl, rfl⟩ (by simp)
    next authority' admitted =>
      cases advanced
      exact start_effect authority'
  | finding tenant rawKey now =>
    simp only [KeyCall.advance] at advanced
    split at advanced
    all_goals
      cases advanced
      exact .none _ ⟨rfl, rfl⟩ (by simp)
  | inserting rawKey tier row =>
    simp only [KeyCall.advance] at advanced
    split at advanced
    · cases advanced
      exact .none _ ⟨rfl, rfl⟩ (by simp)
    · cases advanced
      exact .none _ ⟨rfl, rfl⟩ (by simp)
    next inserted =>
      cases advanced
      obtain ⟨acceptable, rfl⟩ := insertKey_eq_some inserted
      exact .created rawKey tier row rfl acceptable
  | ended result => cases advanced

end Requests

end ZkSettle.Gateway.Tenancy
