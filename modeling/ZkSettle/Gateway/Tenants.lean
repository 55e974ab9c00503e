import ZkSettle.Gateway.Tenancy

/-!
# Tenants

Whose a tenant is, in every run of the gateway. A login ends with the row of the wallet that it
has shown to sign, and with a token that the encoder has made for that row. A wallet has one
tenant, however many of its logins race to insert it.
-/
namespace ZkSettle.Gateway.Tenancy

open Checks Program SignIn

variable {standard : Base64.Engine} {ed : Ed25519} {jwt : Jwt} {settings : Settings}

/-! ## Logins -/

def Login.succeeded (login : Login) (cookie : Cookie) (response : LoginResponse) : Prop :=
  ∃ message consumedAt now, login.stage = .succeeded message consumedAt now cookie response

/-- A step changes one login at most: it keeps its request, and it is not over before. -/
theorem logins_step {s next : SignIn.System} {action : SignIn.Action}
    (accepted : SignIn.step standard ed settings.toConfig s action = .ok next) :
    next.logins = s.logins ∨ (∃ body, action = .arrive body ∧
      next.logins = s.logins ++ [.begin body]) ∨
      ∃ id answers login login' store, action = .advance id answers ∧ s.logins[id]? = some login ∧
        next.logins = s.logins.set id login' ∧
        login.advance standard ed settings.toConfig s.store s.clock answers =
          .ok (store, login') := by
  cases action with
  | challenge nonce =>
    cases accepted
    exact Or.inl rfl
  | arrive body =>
    cases accepted
    exact Or.inr (Or.inl ⟨body, rfl, rfl⟩)
  | advance id answers =>
    rw [SignIn.step] at accepted
    split at accepted
    next => cases accepted
    next login found =>
      obtain ⟨⟨store, login'⟩, advanced, same⟩ := bind_eq_ok.mp accepted
      cases same
      exact Or.inr (Or.inr ⟨id, answers, login, login', store, rfl, found, rfl, advanced⟩)
  | evictExpired =>
    cases accepted
    exact Or.inl rfl
  | wait nanos =>
    cases accepted
    exact Or.inl rfl

theorem advance_body {store store' : NonceStore} {clock : Nat} {answers : SignIn.Answers}
    {login login' : Login} {config : SignIn.Config}
    (advanced : login.advance standard ed config store clock answers = .ok (store', login')) :
    login'.body = login.body := by
  cases advance_cases advanced <;> rfl

/-- Away from the database no login succeeds: whoever has succeeded had done so before. -/
theorem succeeded_before {s next : SignIn.System} {action : SignIn.Action} {id : Nat}
    {login : Login} {cookie : Cookie} {response : LoginResponse}
    (away : AtDatabase s action = false)
    (accepted : SignIn.step standard ed settings.toConfig s action = .ok next)
    (found : next.logins[id]? = some login) (succeeded : Login.succeeded login cookie response) :
    s.logins[id]? = some login := by
  obtain ⟨message, consumedAt, now, finished⟩ := succeeded
  rcases logins_step accepted with same | ⟨body, -, added⟩ | ⟨other, answers, before, after, store,
    rfl, there, changed, advanced⟩
  · rwa [same] at found
  · rw [added] at found
    rcases Slots.snoc_cases found with rfl | earlier
    · cases finished
    · exact earlier
  · rw [changed] at found
    rcases Slots.set_cases found with ⟨rfl, rfl⟩ | ⟨-, earlier⟩
    · cases advance_cases advanced with
      | succeeded message consumedAt now cookie response stage =>
        obtain ⟨body, stage', used⟩ := before
        cases stage
        simp [AtDatabase, there] at away
      | _ => cases finished
    · exact earlier

/-- The body of a login is that of the login in its place before, or it has just arrived. -/
theorem body_before {s next : SignIn.System} {action : SignIn.Action} {id : Nat} {login : Login}
    (accepted : SignIn.step standard ed settings.toConfig s action = .ok next)
    (found : next.logins[id]? = some login) :
    (∃ before, s.logins[id]? = some before ∧ login.body = before.body) ∨
      id = s.logins.length := by
  rcases logins_step accepted with same | ⟨body, -, added⟩ | ⟨other, answers, before, after, store,
    -, there, changed, advanced⟩
  · rw [same] at found
    exact Or.inl ⟨login, found, rfl⟩
  · rw [added] at found
    rcases Nat.lt_trichotomy id s.logins.length with inside | same | outside
    · rw [List.getElem?_append_left inside] at found
      exact Or.inl ⟨login, found, rfl⟩
    · exact Or.inr same
    · rw [List.getElem?_eq_none (by simpa using outside)] at found
      cases found
  · rw [changed] at found
    rcases Slots.set_cases found with ⟨rfl, rfl⟩ | ⟨-, earlier⟩
    · exact Or.inl ⟨before, there, advance_body advanced⟩
    · exact Or.inl ⟨login, earlier, rfl⟩

/-! ## One step -/

/-- What the end of a login knows. -/
structure Finishes (standard : Base64.Engine) (ed : Ed25519) (jwt : Jwt) (settings : Settings)
    (s : System) (id now : Nat) (login : Login) (result : Except GatewayError TenantRow)
    (signIn : SignIn.System) : Prop where
  found : s.signIn.logins[id]? = some login
  verified : ∃ message consumedAt at', login.stage = .verified message consumedAt at'
  upsert : s.upserts[id]? = some (.found result)
  accepted : SignIn.step standard ed settings.toConfig s.signIn
    (.advance id (loginAnswers jwt settings result now)) = .ok signIn

/-- What one step of the gateway is. -/
inductive Stepped (standard : Base64.Engine) (ed : Ed25519) (jwt : Jwt) (settings : Settings)
    (s : System) : Action → System → Prop where
  | signIn (action : SignIn.Action) (signIn : SignIn.System)
      (away : AtDatabase s.signIn action = false)
      (accepted : SignIn.step standard ed settings.toConfig s.signIn action = .ok signIn) :
      Stepped standard ed jwt settings s (.signIn action)
        { s with signIn, upserts := enroll s.upserts action }
  | upsert (id : Nat) (answers : Answers) (login : Login) (db : Database) (before after : Upsert)
      (found : s.signIn.logins[id]? = some login) (there : s.upserts[id]? = some before)
      (upserted : Upserted s.db login.body.account db after) :
      Stepped standard ed jwt settings s (.upsert id answers)
        { s with db, upserts := s.upserts.set id after }
  | finish (id now : Nat) (login : Login) (result : Except GatewayError TenantRow)
      (signIn : SignIn.System)
      (finishes : Finishes standard ed jwt settings s id now login result signIn) :
      Stepped standard ed jwt settings s (.finish id now) { s with signIn }
  | request (handler : Handler) (headers : HeaderMap) (session : Option String) :
      Stepped standard ed jwt settings s (.request handler headers session)
        { s with calls := s.calls ++ [.begin handler headers session] }
  | resume (id : Nat) (answers : Answers) (call call' : KeyCall) (db : Database)
      (found : s.calls[id]? = some call)
      (advanced : call.advance jwt settings s.db answers = .ok (db, call')) :
      Stepped standard ed jwt settings s (.resume id answers)
        { s with db, calls := s.calls.set id call' }

theorem step_stepped {s next : System} {action : Action}
    (accepted : step standard ed jwt settings s action = .ok next) :
    Stepped standard ed jwt settings s action next := by
  cases action with
  | signIn action =>
    simp only [step] at accepted
    split at accepted
    next => cases accepted
    next away =>
      obtain ⟨signIn, stepped, same⟩ := bind_eq_ok.mp accepted
      cases same
      exact .signIn action signIn (Bool.eq_false_iff.mpr away) stepped
  | upsert id answers =>
    simp only [step] at accepted
    split at accepted
    next found there =>
      obtain ⟨⟨db, after⟩, advanced, same⟩ := bind_eq_ok.mp accepted
      cases same
      exact .upsert id answers _ db _ after found there (Upsert.advance_upserted advanced)
    next => cases accepted
  | finish id now =>
    simp only [step] at accepted
    split at accepted
    next found there =>
      obtain ⟨signIn, stepped, same⟩ := bind_eq_ok.mp accepted
      cases same
      exact .finish id now _ _ signIn ⟨found, ⟨_, _, _, rfl⟩, there, stepped⟩
    next => cases accepted
  | request handler headers session =>
    cases accepted
    exact .request handler headers session
  | resume id answers =>
    rw [step] at accepted
    split at accepted
    next => cases accepted
    next call found =>
      obtain ⟨⟨db, call'⟩, advanced, same⟩ := bind_eq_ok.mp accepted
      cases same
      exact .resume id answers call call' db found advanced

/-- The end of a login leaves the others alone. It has succeeded only with a row of the
tenants, and a token that the encoder has made for it. -/
theorem Finishes.cases {s : System} {id now : Nat} {login : Login}
    {result : Except GatewayError TenantRow} {signIn : SignIn.System}
    (finishes : Finishes standard ed jwt settings s id now login result signIn) :
    ∃ login', signIn.logins = s.signIn.logins.set id login' ∧ login'.body = login.body ∧
      ∀ cookie response, Login.succeeded login' cookie response →
        ∃ row, result = .ok row ∧ response.tenantId = row.id ∧ response.wallet = row.wallet ∧
          ∃ secret exp iat, settings.jwtSecret = some secret ∧
            jwt.encode { sub := row.id, wallet := row.wallet, exp, iat } secret =
              .ok cookie.value := by
  obtain ⟨found, ⟨message, consumedAt, at', verified⟩, -, accepted⟩ := finishes
  rw [SignIn.step, found] at accepted
  obtain ⟨⟨store, login'⟩, advanced, same⟩ := bind_eq_ok.mp accepted
  cases same
  refine ⟨login', rfl, advance_body advanced, ?_⟩
  rintro cookie response ⟨message', consumedAt', now', succeeded⟩
  obtain ⟨body, stage, used⟩ := login
  obtain rfl : stage = .verified message consumedAt at' := verified
  cases result with
  | error error =>
    simp only [Login.advance, loginAnswers, Except.map] at advanced
    cases advanced
    cases succeeded
  | ok row =>
    simp only [Login.advance, loginAnswers, Except.map] at advanced
    split at advanced
    next => simp_all
    next => cases advanced; cases succeeded
    next tenant token answered encoded =>
      cases advanced
      cases succeeded
      obtain rfl : row.toTenant = tenant := Except.ok.inj answered
      simp only [bind_eq_ok, okOr_eq_ok, Except.ok.injEq, issue, mapError_eq_ok] at encoded
      obtain ⟨_, rfl, secret, configured, encoded⟩ := encoded
      exact ⟨row, rfl, rfl, rfl, secret, _, _, configured, encoded⟩

/-! ## Tenants -/

theorem Effect.tenants {db db' : Database} {call call' : KeyCall}
    (effect : Effect db call db' call') : db'.tenants = db.tenants := by
  cases effect <;> rfl

theorem Upserted.grows {db db' : Database} {wallet : String} {upsert : Upsert}
    (upserted : Upserted db wallet db' upsert) :
    (∀ row ∈ db.tenants, row ∈ db'.tenants) ∧ db'.apiKeys = db.apiKeys := by
  cases upserted with
  | moved => exact ⟨fun row member => member, rfl⟩
  | found => exact ⟨fun row member => member, rfl⟩
  | inserted row => exact ⟨fun row member => List.mem_append_left _ member, rfl⟩

/-- The response and the token of a login are those of the tenant of its wallet. -/
structure Answered (jwt : Jwt) (settings : Settings) (tenants : List TenantRow) (login : Login)
    (cookie : Cookie) (response : LoginResponse) (row : TenantRow) : Prop where
  member : row ∈ tenants
  own : row.wallet = login.body.account
  id : response.tenantId = row.id
  wallet : response.wallet = row.wallet
  token : ∃ secret exp iat, settings.jwtSecret = some secret ∧
    jwt.encode { sub := row.id, wallet := row.wallet, exp, iat } secret = .ok cookie.value

/-- Everyone who has logged in is a tenant, and every wallet is one tenant at most. -/
structure Seated (standard : Base64.Engine) (ed : Ed25519) (jwt : Jwt) (settings : Settings)
    (s : System) : Prop where
  guarded : Guarded standard ed settings.toConfig s.signIn
  paired : s.upserts.length = s.signIn.logins.length
  wallets : (s.db.tenants.map TenantRow.wallet).Nodup
  ids : (s.db.tenants.map TenantRow.id).Nodup
  found : ∀ (id : Nat) (login : Login) (row : TenantRow), s.signIn.logins[id]? = some login →
    s.upserts[id]? = some (.found (.ok row)) → row ∈ s.db.tenants ∧ row.wallet = login.body.account
  answered : ∀ (id : Nat) (login : Login) cookie response, s.signIn.logins[id]? = some login →
    Login.succeeded login cookie response →
      ∃ row, Answered jwt settings s.db.tenants login cookie response row

theorem seated_start (clock : Nat) : Seated standard ed jwt settings (.start clock) where
  guarded := guarded_start clock
  paired := rfl
  wallets := List.nodup_nil
  ids := List.nodup_nil
  found := by rintro id login row ⟨⟩
  answered := by rintro id login cookie response ⟨⟩

theorem length_enroll {s next : SignIn.System} {action : SignIn.Action} {upserts : List Upsert}
    (accepted : SignIn.step standard ed settings.toConfig s action = .ok next)
    (paired : upserts.length = s.logins.length) :
    (enroll upserts action).length = next.logins.length := by
  cases action with
  | arrive body =>
    cases accepted
    simp [enroll, paired]
  | advance id answers =>
    rcases logins_step accepted with same | ⟨body, ⟨⟩, -⟩ | ⟨other, answers', before, after, store,
      -, -, changed, -⟩
    · rw [same]
      exact paired
    · rw [changed, List.length_set]
      exact paired
  | _ =>
    cases accepted
    exact paired

/-- A login that has just arrived has no tenant. -/
theorem enroll_before {upserts : List Upsert} {action : SignIn.Action} {id : Nat}
    {result : Except GatewayError TenantRow}
    (found : (enroll upserts action)[id]? = some (.found result)) :
    upserts[id]? = some (.found result) := by
  cases action with
  | arrive body =>
    rcases Slots.snoc_cases found with new | earlier
    · cases new
    · exact earlier
  | _ => exact found

theorem Seated.signIn {s : System} (seated : Seated standard ed jwt settings s)
    {action : SignIn.Action} {signIn : SignIn.System} (fresh : SignIn.Fresh s.signIn action)
    (away : AtDatabase s.signIn action = false)
    (accepted : SignIn.step standard ed settings.toConfig s.signIn action = .ok signIn) :
    Seated standard ed jwt settings { s with signIn, upserts := enroll s.upserts action } where
  guarded := guarded_step seated.guarded fresh accepted
  paired := length_enroll accepted seated.paired
  wallets := seated.wallets
  ids := seated.ids
  found id login row there known := by
    have known := enroll_before known
    rcases body_before accepted there with ⟨before, earlier, same⟩ | new
    · rw [same]
      exact seated.found id before row earlier known
    · -- the place of a new login is past the end of the list
      rw [List.getElem?_eq_none (by rw [seated.paired, new])] at known
      cases known
  answered id login cookie response there succeeded :=
    seated.answered id login cookie response (succeeded_before away accepted there succeeded)
      succeeded

theorem Seated.upsert {s : System} (seated : Seated standard ed jwt settings s) {id : Nat}
    {login : Login} {before after : Upsert} {db : Database}
    (found : s.signIn.logins[id]? = some login) (there : s.upserts[id]? = some before)
    (upserted : Upserted s.db login.body.account db after) :
    Seated standard ed jwt settings { s with db, upserts := s.upserts.set id after } where
  guarded := seated.guarded
  paired := (List.length_set ..).trans seated.paired
  wallets := by
    cases upserted with
    | inserted row insertable lowest =>
      rw [List.map_append]
      exact List.nodup_append_comm.mp (List.nodup_cons.mpr ⟨insertable.wallet, seated.wallets⟩)
    | _ => exact seated.wallets
  ids := by
    cases upserted with
    | inserted row insertable lowest =>
      rw [List.map_append]
      exact List.nodup_append_comm.mp (List.nodup_cons.mpr ⟨insertable.id, seated.ids⟩)
    | _ => exact seated.ids
  found other login' row at' known := by
    rcases Slots.set_cases known with ⟨rfl, rfl⟩ | ⟨-, earlier⟩
    · obtain rfl : login = login' := Option.some.inj (found.symm.trans at')
      cases upserted with
      | moved upsert pending => exact absurd rfl (pending row)
      | found row member own => exact ⟨member, own⟩
    · obtain ⟨member, own⟩ := seated.found other login' row at' earlier
      exact ⟨upserted.grows.1 row member, own⟩
  answered other login' cookie response at' succeeded := by
    obtain ⟨row, answered⟩ := seated.answered other login' cookie response at' succeeded
    exact ⟨row, { answered with member := upserted.grows.1 row answered.member }⟩

theorem Seated.finish {s : System} (seated : Seated standard ed jwt settings s) {id now : Nat}
    {login : Login} {result : Except GatewayError TenantRow} {signIn : SignIn.System}
    (finishes : Finishes standard ed jwt settings s id now login result signIn) :
    Seated standard ed jwt settings { s with signIn } := by
  obtain ⟨login', changed, same, finished⟩ := finishes.cases
  have fresh : SignIn.Fresh s.signIn (.advance id (loginAnswers jwt settings result now)) :=
    trivial
  refine ⟨guarded_step seated.guarded fresh finishes.accepted, ?_, seated.wallets, seated.ids,
    ?_, ?_⟩
  · simp [changed, seated.paired]
  · intro other login'' row there known
    rw [changed] at there
    rcases Slots.set_cases there with ⟨rfl, rfl⟩ | ⟨-, earlier⟩
    · rw [same]
      exact seated.found other login row finishes.found known
    · exact seated.found other login'' row earlier known
  · intro other login'' cookie response there succeeded
    rw [changed] at there
    rcases Slots.set_cases there with ⟨rfl, rfl⟩ | ⟨-, earlier⟩
    · obtain ⟨row, rfl, tenantId, wallet, token⟩ := finished cookie response succeeded
      obtain ⟨member, own⟩ := seated.found other login row finishes.found finishes.upsert
      exact ⟨row, member, own.trans (congrArg LoginRequest.account same).symm, tenantId, wallet,
        token⟩
    · exact seated.answered other login'' cookie response earlier succeeded

theorem step_seated {s next : System} {action : Action}
    (seated : Seated standard ed jwt settings s) (fresh : Fresh s action)
    (accepted : step standard ed jwt settings s action = .ok next) :
    Seated standard ed jwt settings next := by
  cases step_stepped accepted with
  | signIn action signIn away advanced => exact seated.signIn fresh away advanced
  | upsert id answers login db before after found there upserted =>
    exact seated.upsert found there upserted
  | finish id now login result signIn finishes => exact seated.finish finishes
  | request => exact ⟨seated.guarded, seated.paired, seated.wallets, seated.ids, seated.found,
      seated.answered⟩
  | resume id answers call call' db found advanced =>
    -- no request for keys touches the tenants
    have tenants := (KeyCall.advance_effect advanced).tenants
    refine ⟨seated.guarded, seated.paired, ?_, ?_, ?_, ?_⟩
    · simpa only [tenants] using seated.wallets
    · simpa only [tenants] using seated.ids
    · simpa only [tenants] using seated.found
    · simpa only [tenants] using seated.answered

theorem run_seated {clock : Nat} {actions : List Action}
    (fresh : Transactional.Meets (step standard ed jwt settings) Fresh (.start clock) actions) :
    Seated standard ed jwt settings (run standard ed jwt settings (.start clock) actions) :=
  Transactional.run_invariant_of_meets
    (fun _ _ _ seated allowed accepted => step_seated seated allowed accepted) _ _ fresh
    (seated_start clock)

/-- A login that has succeeded shows what every login does that gets through: the message that
its account has signed, and a nonce that is its own. -/
theorem Seated.authentic {s : System} (seated : Seated standard ed jwt settings s) {id : Nat}
    {login : Login} {message : SignedMessage} {consumedAt now : Nat} {cookie : Cookie}
    {response : LoginResponse} (found : s.signIn.logins[id]? = some login)
    (succeeded : login.stage = .succeeded message consumedAt now cookie response) :
    UsedOnce s.signIn id message.parsed.nonce consumedAt ∧
      SignIn.Reads standard login.body message ∧
        Authentic ed settings.toConfig login.body message now := by
  have member := List.mem_of_getElem? found
  have sound := seated.guarded.sound login member
  rw [SignIn.Sound, succeeded] at sound
  obtain ⟨⟨created, used, before, young⟩, reads, authentic⟩ := sound
  have issued := (seated.guarded.used login member _ _ used).1
  refine ⟨⟨⟨created, issued, before, young⟩, fun id' other created' there taken => ?_⟩, reads,
    authentic⟩
  exact seated.guarded.single id' id other login _ there found ⟨created', taken⟩ ⟨created, used⟩

/-- Of two logins that have succeeded, in whatever order their statements came, both have one
tenant exactly if both have one wallet. -/
theorem same_tenant_iff_same_wallet {clock : Nat} {actions : List Action}
    (fresh : Transactional.Meets (step standard ed jwt settings) Fresh (.start clock) actions)
    {first second : Nat} {login login' : Login} {cookie cookie' : Cookie}
    {response response' : LoginResponse}
    (found : (run standard ed jwt settings (.start clock) actions).signIn.logins[first]? =
      some login)
    (found' : (run standard ed jwt settings (.start clock) actions).signIn.logins[second]? =
      some login')
    (succeeded : Login.succeeded login cookie response)
    (succeeded' : Login.succeeded login' cookie' response') :
    response.tenantId = response'.tenantId ↔ login.body.account = login'.body.account := by
  have seated := run_seated fresh
  obtain ⟨row, answered⟩ := seated.answered first login cookie response found succeeded
  obtain ⟨row', answered'⟩ := seated.answered second login' cookie' response' found' succeeded'
  rw [answered.id, answered'.id, ← answered.own, ← answered'.own]
  constructor
  · intro same
    rw [List.inj_on_of_nodup_map seated.ids answered.member answered'.member same]
  · intro same
    rw [List.inj_on_of_nodup_map seated.wallets answered.member answered'.member same]

/-! ## A login -/

theorem step_signIn_ok {s : System} {action : SignIn.Action} {signIn : SignIn.System}
    (away : AtDatabase s.signIn action = false)
    (accepted : SignIn.step standard ed settings.toConfig s.signIn action = .ok signIn) :
    step standard ed jwt settings s (.signIn action) =
      .ok { s with signIn, upserts := enroll s.upserts action } := by
  simp only [step, away, accepted]
  rfl

section Success

variable {store rest : NonceStore} {clock created : Nat} {body : LoginRequest}
  {message : SignedMessage}

/-- A login that has arrived alone, at a stage. -/
def single (store : NonceStore) (issued : List (String × Nat)) (clock : Nat) (login : Login)
    (upsert : Upsert) (db : Database) : System where
  signIn := { store, issued, logins := [login], clock }
  upserts := [upsert]
  db
  calls := []

def shown (body : LoginRequest) (message : SignedMessage) (created clock now : Nat) : Login where
  body
  stage := .verified message clock now
  used := some (message.parsed.nonce, created)

/-- The gateway once one of its logins has gone on. -/
def System.moved (s : System) (store : NonceStore) (id : Nat) (login : Login) : System :=
  { s with signIn := { s.signIn with store, logins := s.signIn.logins.set id login } }

theorem System.moved_moved (s : System) (store' : NonceStore) (id : Nat) (login login' : Login) :
    (s.moved store' id login').moved store id login = s.moved store id login := by
  simp only [System.moved, List.set_set]

theorem System.moved_found {s : System} {id : Nat} (inside : id < s.signIn.logins.length)
    (login : Login) : (s.moved store id login).signIn.logins[id]? = some login :=
  List.getElem?_set_self inside

/-- A step of a login that does not wait for its tenant. -/
theorem step_login {s : System} {id : Nat} {answers : SignIn.Answers} {login login' : Login}
    (found : s.signIn.logins[id]? = some login)
    (away : ∀ message consumedAt now, login.stage ≠ .verified message consumedAt now)
    (advanced : login.advance standard ed settings.toConfig s.signIn.store s.signIn.clock answers =
      .ok (store, login')) :
    step standard ed jwt settings s (.signIn (.advance id answers)) =
      .ok (s.moved store id login') := by
  obtain ⟨body, stage, used⟩ := login
  have elsewhere : AtDatabase s.signIn (.advance id answers) = false := by
    rw [AtDatabase, found]
    cases stage with
    | verified message consumedAt now => exact absurd rfl (away message consumedAt now)
    | _ => rfl
  rw [step_signIn_ok elsewhere (step_advance found advanced)]
  rfl

/-- It goes through to the database, when nothing is against it, whatever the others are at. -/
theorem run_shown (answers : SignIn.Answers) (permitted : answers.permitted = true) {s : System}
    {id : Nat} (found : s.signIn.logins[id]? = some (.begin body))
    (read : readRequest standard settings.toConfig body = .ok message)
    (removed : s.signIn.store.remove message.parsed.nonce = (some created, rest))
    (young : unexpired s.signIn.clock created = true)
    (checked : checkRequest ed settings.toConfig body message answers.now = .ok ())
    (later : List Action) :
    run standard ed jwt settings s (List.replicate 4 (.signIn (.advance id answers)) ++ later) =
      run standard ed jwt settings
        (s.moved rest id (shown body message created s.signIn.clock answers.now)) later := by
  have inside : id < s.signIn.logins.length := (List.getElem?_eq_some_iff.mp found).1
  have entered : (Login.begin body).advance standard ed settings.toConfig s.signIn.store
      s.signIn.clock answers =
        .ok (s.signIn.store, { body, stage := .read message, used := none }) := by
    simp only [Login.advance, Login.begin, permitted, if_true, read]
  have taken : Login.advance standard ed settings.toConfig s.signIn.store s.signIn.clock answers
      { body, stage := .read message, used := none } =
        .ok (rest, { body, stage := .removed message created,
                     used := some (message.parsed.nonce, created) }) := by
    simp only [Login.advance, removed]
  have aged : Login.advance standard ed settings.toConfig rest s.signIn.clock answers
      { body, stage := .removed message created, used := some (message.parsed.nonce, created) } =
        .ok (rest, { body, stage := .consumed message s.signIn.clock,
                     used := some (message.parsed.nonce, created) }) := by
    simp only [Login.advance, young, if_true]
  have verified : Login.advance standard ed settings.toConfig rest s.signIn.clock answers
      { body, stage := .consumed message s.signIn.clock,
        used := some (message.parsed.nonce, created) } =
        .ok (rest, shown body message created s.signIn.clock answers.now) := by
    simp only [Login.advance, checked, shown]
  -- each step finds the login as the one before has left it
  simp only [List.replicate, List.cons_append, List.nil_append]
  rw [run, Transactional.run_cons_ok (step_login found (by simp [Login.begin]) entered),
    Transactional.run_cons_ok (step_login (System.moved_found inside _) (by simp) taken),
    System.moved_moved,
    Transactional.run_cons_ok (step_login (System.moved_found inside _) (by simp) aged),
    System.moved_moved,
    Transactional.run_cons_ok (step_login (System.moved_found inside _) (by simp) verified),
    System.moved_moved]
  rfl

/-- The database after its first login. -/
def firstTenant (row : TenantRow) : Database where
  tenants := [row]
  apiKeys := []

/-- The first login of all makes its tenant, and is answered with a token for it. -/
theorem run_firstTenant (answers : Answers) (working : answers.fault = none) {now at' : Nat}
    {secret token : String} (configured : settings.jwtSecret = some secret)
    (encoded : jwt.encode { sub := answers.uuid, wallet := body.account,
                            exp := now + settings.jwtTtlSecs, iat := now } secret = .ok token)
    (issued : List (String × Nat)) (later : List Action) :
    run standard ed jwt settings
        (single store issued clock (shown body message created clock at') .finding .empty)
        (List.replicate 3 (.upsert 0 answers) ++ .finish 0 now :: later) =
      run standard ed jwt settings
        (single store issued clock
          { body
            stage := .succeeded message clock at' (sessionCookie settings.toConfig token)
              { tenantId := answers.uuid, wallet := body.account, tier := "developer" }
            used := some (message.parsed.nonce, created) }
          (.found (.ok (newTenant answers.uuid body.account at')))
          (firstTenant (newTenant answers.uuid body.account at'))) later := by
  have absent : step standard ed jwt settings
      (single store issued clock (shown body message created clock at') .finding .empty)
      (.upsert 0 answers) = .ok
        (single store issued clock (shown body message created clock at') .inserting .empty) := by
    simp [step, single, shown, Upsert.advance, working, findByWallet, Database.empty, bind,
      Except.bind]
  have inserted : step standard ed jwt settings
      (single store issued clock (shown body message created clock at') .inserting .empty)
      (.upsert 0 answers) = .ok
        (single store issued clock (shown body message created clock at') .rereading
          (firstTenant (newTenant answers.uuid body.account at'))) := by
    simp [step, single, shown, Upsert.advance, working, insertTenant, Database.empty, firstTenant,
      bind, Except.bind]
  have reread : step standard ed jwt settings
      (single store issued clock (shown body message created clock at') .rereading
        (firstTenant (newTenant answers.uuid body.account at'))) (.upsert 0 answers) = .ok
        (single store issued clock (shown body message created clock at')
          (.found (.ok (newTenant answers.uuid body.account at')))
          (firstTenant (newTenant answers.uuid body.account at'))) := by
    simp [step, single, shown, Upsert.advance, working, findByWallet, firstTenant, newTenant, bind,
      Except.bind]
  have finished : step standard ed jwt settings
      (single store issued clock (shown body message created clock at')
        (.found (.ok (newTenant answers.uuid body.account at')))
        (firstTenant (newTenant answers.uuid body.account at'))) (.finish 0 now) = .ok
        (single store issued clock
          { body
            stage := .succeeded message clock at' (sessionCookie settings.toConfig token)
              { tenantId := answers.uuid, wallet := body.account, tier := "developer" }
            used := some (message.parsed.nonce, created) }
          (.found (.ok (newTenant answers.uuid body.account at')))
          (firstTenant (newTenant answers.uuid body.account at'))) := by
    simp [step, single, shown, SignIn.step, Login.advance, loginAnswers, Except.map, configured,
      okOr, issue, encoded, Except.mapError, newTenant, TenantRow.toTenant, bind, Except.bind]
  simp only [List.replicate, List.cons_append, List.nil_append]
  rw [run, Transactional.run_cons_ok absent, Transactional.run_cons_ok inserted,
    Transactional.run_cons_ok reread, Transactional.run_cons_ok finished]
  rfl

end Success

/-- An encoder of one token, for one record of claims and one secret. -/
def encodeOnly (claims : Claims) (secret token : String) (given : Claims) (key : String) :
    Except String String :=
  if given = claims ∧ key = secret then .ok token else .error "unsupported"

/-- Its decoder, for a minute longer than the claims say. -/
def decodeOnly (claims : Claims) (secret token : String) (given key : String) (now : Nat) :
    Option Claims :=
  if given = token ∧ key = secret ∧ now ≤ claims.exp + 60 then some claims else none

theorem decodeOnly_encodeOnly (claims : Claims) (secret token : String) (given : Claims)
    (key text : String) (now : Nat) (given' : Claims)
    (encoded : encodeOnly claims secret token given key = .ok text)
    (decoded : decodeOnly claims secret token text key now = some given') : given' = given := by
  rw [encodeOnly] at encoded
  rw [decodeOnly] at decoded
  split at encoded
  next same =>
    split at decoded
    next => exact (Option.some.inj decoded).symm.trans same.1.symm
    next => cases decoded
  next => cases encoded

def Jwt.only (claims : Claims) (secret token : String) : Jwt where
  encode := encodeOnly claims secret token
  decode := decodeOnly claims secret token
  decode_encode := decodeOnly_encodeOnly claims secret token

def signInSettings : Settings where
  toConfig := SignIn.settings
  adminKey := none
  allowOpenKeys := false

def signInClaims : Claims where
  sub := "tenant"
  wallet := wallet
  exp := 1777723300 + 86400
  iat := 1777723300

def oneToken : Jwt := .only signInClaims "secret" "token"

def zeros : Bytes32 := ⟨List.replicate 32 0, rfl⟩

def working : Answers where
  now := 1777723300
  uuid := "tenant"
  random := zeros
  fault := none
  detail := ""

/-- A challenge, a minute, and a login up to its end. -/
def tenantActions (later : List Action) : List Action :=
  .signIn (.challenge signIn.nonce) :: .signIn (.wait (60 * 1000000000)) ::
    .signIn (.arrive signInRequest) :: (List.replicate 4 (.signIn (.advance 0 signInAnswers)) ++
      (List.replicate 3 (.upsert 0 working) ++ .finish 0 1777723300 :: later))

def tenantRow : TenantRow := newTenant "tenant" wallet 1777723300

/-- The login of `signedIn`, and its tenant. -/
def tenantSystem : System :=
  single .new [(signIn.nonce, 0)] (60 * 1000000000) signedIn (.found (.ok tenantRow))
    (firstTenant tenantRow)

theorem run_tenantActions (later : List Action) :
    run Base64.standard oneSignature oneToken signInSettings (.start 0) (tenantActions later) =
      run Base64.standard oneSignature oneToken signInSettings tenantSystem later := by
  have removed : NonceStore.remove { pending := [(signIn.nonce, 0)] } signInMessage.parsed.nonce =
      (some 0, .new) := by
    rw [signInMessage_parsed]
    simp [NonceStore.remove, NonceStore.new]
  have young : unexpired (60 * 1000000000) 0 = true := by decide
  have begun : ∀ later, run Base64.standard oneSignature oneToken signInSettings (.start 0)
      (.signIn (.challenge signIn.nonce) :: .signIn (.wait (60 * 1000000000)) ::
        .signIn (.arrive signInRequest) :: later) =
      run Base64.standard oneSignature oneToken signInSettings
        (single { pending := [(signIn.nonce, 0)] } [(signIn.nonce, 0)] (60 * 1000000000)
          (.begin signInRequest) .finding .empty) later := by
    intro later
    rw [run, Transactional.run_cons_ok rfl, Transactional.run_cons_ok rfl,
      Transactional.run_cons_ok rfl]
    simp [run, single, System.start, SignIn.System.start, enroll, NonceStore.issue,
      NonceStore.remove, NonceStore.new]
  have encoded : oneToken.encode { sub := working.uuid, wallet := signInRequest.account,
                                   exp := 1777723300 + signInSettings.jwtTtlSecs,
                                   iat := 1777723300 } "secret" = .ok "token" := by
    rw [signInRequest_account]
    rfl
  have read : readRequest Base64.standard signInSettings.toConfig signInRequest =
      .ok signInMessage := read_signIn
  have checked : checkRequest oneSignature signInSettings.toConfig signInRequest signInMessage
      signInAnswers.now = .ok () := check_signIn
  have configured : signInSettings.jwtSecret = some "secret" := rfl
  rw [tenantActions, begun, run_shown signInAnswers rfl rfl read removed young checked]
  exact run_firstTenant working rfl configured encoded _ later

theorem fresh_tenantActions (later : List Action)
    (others : ∀ action ∈ later, ∀ s, Fresh s action) :
    Transactional.Meets (step Base64.standard oneSignature oneToken signInSettings) Fresh
      (.start 0) (tenantActions later) := by
  refine .cons rfl List.not_mem_nil ?_
  refine Transactional.meets_of_forall _ _ fun action member s => ?_
  simp only [List.mem_cons, List.mem_append] at member
  rcases member with rfl | rfl | advances | upserts | rfl | more
  · trivial
  · trivial
  · rw [List.eq_of_mem_replicate advances]
    trivial
  · rw [List.eq_of_mem_replicate upserts]
    trivial
  · trivial
  · exact others action more s

def tenantResponse : LoginResponse where
  tenantId := "tenant"
  wallet := wallet
  tier := "developer"

/-! ## Two logins of one wallet -/

/-- A scheme that takes what either of two takes. -/
def acceptsEither (first second : Ed25519) : Ed25519 where
  fromBytes pubkey := first.fromBytes pubkey || second.fromBytes pubkey
  verifyStrict pubkey message signature :=
    first.verifyStrict pubkey message signature || second.verifyStrict pubkey message signature

theorem verifySignature_either {first second : Ed25519} {address : String}
    {message signature : List UInt8}
    (verified : verifySignature first address message signature = .ok () ∨
      verifySignature second address message signature = .ok ()) :
    verifySignature (acceptsEither first second) address message signature = .ok () := by
  simp only [verifySignature, bind_eq_ok, okOr_eq_ok, require_eq_ok] at verified ⊢
  rcases verified with ⟨decoded, spelt, pubkey, whole, -, point, -, long, signed⟩ |
    ⟨decoded, spelt, pubkey, whole, -, point, -, long, signed⟩
  · exact ⟨decoded, spelt, pubkey, whole, ⟨⟩, by simp [acceptsEither, point], ⟨⟩, long,
      by simp [acceptsEither, signed]⟩
  · exact ⟨decoded, spelt, pubkey, whole, ⟨⟩, by simp [acceptsEither, point], ⟨⟩, long,
      by simp [acceptsEither, signed]⟩

/-- The same message with another nonce. -/
def rivalSignIn : SiwsMessage := { signIn with nonce := "wxyz9876stuv5432" }

def rivalLines : List (List Char) := signInLines.set 5 "Nonce: wxyz9876stuv5432".toList

def rivalText : String := .ofList (List.intercalate ['\n'] (rivalLines ++ [expirationLine]))

theorem parse_rival : parseMessage rivalText = .ok rivalSignIn := by
  have lines : Text.lines rivalText.toList = rivalLines ++ [expirationLine] := by
    rw [rivalText, String.toList_ofList]
    exact Text.lines_intercalate rivalLines (by decide) (by decide) (by decide)
  rw [parseMessage, lines]
  rfl

/-- Its signature, under the same key. -/
def rivalSignature : List UInt8 :=
  [164, 203, 21, 2, 127, 202, 209, 202, 28, 27, 118, 127, 46, 223, 79, 137, 75, 172, 245, 8, 33,
    163, 97, 191, 10, 208, 135, 10, 75, 70, 134, 232, 119, 219, 120, 216, 149, 104, 21, 18, 46,
    200, 48, 230, 249, 247, 115, 149, 91, 140, 29, 100, 243, 96, 95, 112, 128, 24, 168, 187, 3, 1,
    11, 14]

def rivalMessage : SignedMessage := .of rivalText rivalSignature rivalSignIn

def rivalRequest : LoginRequest :=
  .of Base64.standard rivalSignIn.address rivalText rivalSignature

theorem rivalRequest_account : rivalRequest.account = wallet := rfl

def twoSignatures : Ed25519 :=
  acceptsEither oneSignature (Ed25519.only walletKey rivalMessage.messageBytes rivalSignature)

theorem check_both :
    checkRequest twoSignatures SignIn.settings signInRequest signInMessage 1777723300 = .ok () ∧
      checkRequest twoSignatures SignIn.settings rivalRequest rivalMessage 1777723300 =
        .ok () := by
  have valid : validateMessage rivalSignIn 1777723300 (some "localhost") = .ok () := by decide
  have first : verifySignature twoSignatures wallet signInMessage.messageBytes signInSignature =
      .ok () := verifySignature_either (Or.inl verify_signIn)
  have second : verifySignature twoSignatures wallet rivalMessage.messageBytes rivalSignature =
      .ok () :=
    verifySignature_either (Or.inr (verifySignature_only decode_wallet (by decide) (by decide)))
  constructor
  · simp only [checkRequest, bind_eq_ok, okOr_eq_ok, mapError_eq_ok, signInRequest_account,
      signInMessage_parsed, signInMessage_signature]
    exact ⟨"localhost", rfl, ⟨⟩, validate_signIn, first⟩
  · simp only [checkRequest, bind_eq_ok, okOr_eq_ok, mapError_eq_ok]
    exact ⟨"localhost", rfl, ⟨⟩, valid, second⟩

/-- The other login draws an identifier of its own. -/
def rivalAnswers : Answers := { working with uuid := "rival" }

/-- Neither finds a tenant, both insert one, and both read again. -/
def upsertActions : List Action :=
  [.upsert 0 working, .upsert 1 rivalAnswers, .upsert 0 working, .upsert 1 rivalAnswers,
    .upsert 1 rivalAnswers, .upsert 0 working, .finish 1 1777723300, .finish 0 1777723300]

/-- Two challenges, a minute, and a login with each. -/
def raceActions : List Action :=
  .signIn (.challenge signIn.nonce) :: .signIn (.challenge rivalSignIn.nonce) ::
    .signIn (.wait (60 * 1000000000)) :: .signIn (.arrive signInRequest) ::
      .signIn (.arrive rivalRequest) :: (List.replicate 4 (.signIn (.advance 0 signInAnswers)) ++
        (List.replicate 4 (.signIn (.advance 1 signInAnswers)) ++ upsertActions))

/-- The two of them, where neither nonce is left. -/
def racing (login rival : Login) (first second : Upsert) (db : Database) : System where
  signIn := { store := .new
              issued := [(rivalSignIn.nonce, 0), (signIn.nonce, 0)]
              logins := [login, rival]
              clock := 60 * 1000000000 }
  upserts := [first, second]
  db
  calls := []

def shownFirst : Login := shown signInRequest signInMessage 0 (60 * 1000000000) 1777723300

def shownRival : Login := shown rivalRequest rivalMessage 0 (60 * 1000000000) 1777723300

def rivalSignedIn : Login where
  body := rivalRequest
  stage := .succeeded rivalMessage (60 * 1000000000) 1777723300
    (sessionCookie SignIn.settings "token") tenantResponse
  used := some (rivalSignIn.nonce, 0)

/-- The second statement to insert finds the tenant of the first. -/
theorem run_upserts :
    run Base64.standard twoSignatures oneToken signInSettings
        (racing shownFirst shownRival .finding .finding .empty) upsertActions =
      racing signedIn rivalSignedIn (.found (.ok tenantRow)) (.found (.ok tenantRow))
        (firstTenant tenantRow) := by
  have absent : findByWallet .empty wallet = none := rfl
  have inserted : insertTenant .empty (newTenant "tenant" wallet 1777723300) =
      some (firstTenant tenantRow) := by
    simp [insertTenant, Database.empty, firstTenant, tenantRow]
  have kept : insertTenant (firstTenant tenantRow) (newTenant "rival" wallet 1777723300) =
      some (firstTenant tenantRow) := by
    simp [insertTenant, firstTenant, tenantRow, newTenant]
  have present : findByWallet (firstTenant tenantRow) wallet = some tenantRow := by
    simp [findByWallet, firstTenant, tenantRow, newTenant]
  have looked : step Base64.standard twoSignatures oneToken signInSettings
      (racing shownFirst shownRival .finding .finding .empty) (.upsert 0 working) =
        .ok (racing shownFirst shownRival .inserting .finding .empty) := by
    simp [step, racing, shownFirst, shown, signInRequest_account, Upsert.advance, working, absent,
      bind, Except.bind]
  have lookedRival : step Base64.standard twoSignatures oneToken signInSettings
      (racing shownFirst shownRival .inserting .finding .empty) (.upsert 1 rivalAnswers) =
        .ok (racing shownFirst shownRival .inserting .inserting .empty) := by
    simp [step, racing, shownRival, shown, rivalRequest_account, Upsert.advance, rivalAnswers,
      working, absent, bind, Except.bind]
  have added : step Base64.standard twoSignatures oneToken signInSettings
      (racing shownFirst shownRival .inserting .inserting .empty) (.upsert 0 working) =
        .ok (racing shownFirst shownRival .rereading .inserting (firstTenant tenantRow)) := by
    simp [step, racing, shownFirst, shown, signInRequest_account, Upsert.advance, working,
      inserted, bind, Except.bind]
  have addedRival : step Base64.standard twoSignatures oneToken signInSettings
      (racing shownFirst shownRival .rereading .inserting (firstTenant tenantRow))
      (.upsert 1 rivalAnswers) =
        .ok (racing shownFirst shownRival .rereading .rereading (firstTenant tenantRow)) := by
    simp [step, racing, shownRival, shown, rivalRequest_account, Upsert.advance, rivalAnswers,
      working, kept, bind, Except.bind]
  have rereadRival : step Base64.standard twoSignatures oneToken signInSettings
      (racing shownFirst shownRival .rereading .rereading (firstTenant tenantRow))
      (.upsert 1 rivalAnswers) =
        .ok (racing shownFirst shownRival .rereading (.found (.ok tenantRow))
          (firstTenant tenantRow)) := by
    simp [step, racing, shownRival, shown, rivalRequest_account, Upsert.advance, rivalAnswers,
      working, present, bind, Except.bind]
  have reread : step Base64.standard twoSignatures oneToken signInSettings
      (racing shownFirst shownRival .rereading (.found (.ok tenantRow)) (firstTenant tenantRow))
      (.upsert 0 working) =
        .ok (racing shownFirst shownRival (.found (.ok tenantRow)) (.found (.ok tenantRow))
          (firstTenant tenantRow)) := by
    simp [step, racing, shownFirst, shown, signInRequest_account, Upsert.advance, working, present,
      bind, Except.bind]
  rw [upsertActions, run, Transactional.run_cons_ok looked, Transactional.run_cons_ok lookedRival,
    Transactional.run_cons_ok added, Transactional.run_cons_ok addedRival,
    Transactional.run_cons_ok rereadRival, Transactional.run_cons_ok reread,
    Transactional.run_cons_ok rfl, Transactional.run_cons_ok rfl]
  rfl

theorem run_race :
    run Base64.standard twoSignatures oneToken signInSettings (.start 0) raceActions =
      racing signedIn rivalSignedIn (.found (.ok tenantRow)) (.found (.ok tenantRow))
        (firstTenant tenantRow) := by
  obtain ⟨checked, checkedRival⟩ := check_both
  have removed : NonceStore.remove { pending := [(rivalSignIn.nonce, 0), (signIn.nonce, 0)] }
      signInMessage.parsed.nonce = (some 0, { pending := [(rivalSignIn.nonce, 0)] }) := by
    rw [signInMessage_parsed]
    simp [NonceStore.remove, signIn, rivalSignIn]
  have removedRival : NonceStore.remove { pending := [(rivalSignIn.nonce, 0)] }
      rivalMessage.parsed.nonce = (some 0, .new) := by
    simp [NonceStore.remove, NonceStore.new, rivalMessage, SignedMessage.of]
  have young : unexpired (60 * 1000000000) 0 = true := by decide
  have begun : ∀ later, run Base64.standard twoSignatures oneToken signInSettings (.start 0)
      (.signIn (.challenge signIn.nonce) :: .signIn (.challenge rivalSignIn.nonce) ::
        .signIn (.wait (60 * 1000000000)) :: .signIn (.arrive signInRequest) ::
          .signIn (.arrive rivalRequest) :: later) =
      run Base64.standard twoSignatures oneToken signInSettings
        { racing (.begin signInRequest) (.begin rivalRequest) .finding .finding .empty with
          signIn.store := { pending := [(rivalSignIn.nonce, 0), (signIn.nonce, 0)] } } later := by
    intro later
    rw [run, Transactional.run_cons_ok rfl, Transactional.run_cons_ok rfl,
      Transactional.run_cons_ok rfl, Transactional.run_cons_ok rfl, Transactional.run_cons_ok rfl]
    simp [run, racing, System.start, SignIn.System.start, enroll, NonceStore.issue,
      NonceStore.remove, NonceStore.new, signIn, rivalSignIn]
  have read : readRequest Base64.standard signInSettings.toConfig signInRequest =
      .ok signInMessage := read_signIn
  have readRival : readRequest Base64.standard signInSettings.toConfig rivalRequest =
      .ok rivalMessage := readRequest_of rivalSignature rfl parse_rival
  rw [raceActions, begun, run_shown signInAnswers rfl rfl read removed young checked,
    run_shown signInAnswers rfl rfl readRival removedRival young checkedRival]
  exact run_upserts

theorem fresh_race : Transactional.Meets (step Base64.standard twoSignatures oneToken
    signInSettings) Fresh (.start 0) raceActions := by
  refine .cons rfl List.not_mem_nil ?_
  refine .cons rfl ?_ ?_
  · simp [Fresh, SignIn.Fresh, System.start, SignIn.System.start, signIn, rivalSignIn]
  · refine Transactional.meets_of_forall _ _ ?_
    simp [upsertActions, Fresh, SignIn.Fresh]

/-- Both logins get through, each with a nonce of its own, and both are of the tenant that the
first insert has made. -/
theorem same_tenant_iff_same_wallet_race :
    (run Base64.standard twoSignatures oneToken signInSettings (.start 0)
        raceActions).signIn.logins = [signedIn, rivalSignedIn] ∧
      signedIn.used ≠ rivalSignedIn.used ∧
        (tenantResponse.tenantId = tenantResponse.tenantId ↔
          signInRequest.account = rivalRequest.account) := by
  have logins : (run Base64.standard twoSignatures oneToken signInSettings (.start 0)
      raceActions).signIn.logins = [signedIn, rivalSignedIn] := by
    rw [run_race]
    rfl
  have succeeded : Login.succeeded signedIn (sessionCookie SignIn.settings "token")
      tenantResponse := ⟨_, _, _, rfl⟩
  have succeededRival : Login.succeeded rivalSignedIn (sessionCookie SignIn.settings "token")
      tenantResponse := ⟨_, _, _, rfl⟩
  have found : (run Base64.standard twoSignatures oneToken signInSettings (.start 0)
      raceActions).signIn.logins[0]? = some signedIn := by
    rw [logins]
    rfl
  have foundRival : (run Base64.standard twoSignatures oneToken signInSettings (.start 0)
      raceActions).signIn.logins[1]? = some rivalSignedIn := by
    rw [logins]
    rfl
  exact ⟨logins, by simp [signedIn, rivalSignedIn, signIn, rivalSignIn],
    same_tenant_iff_same_wallet fresh_race found foundRival succeeded succeededRival⟩

end ZkSettle.Gateway.Tenancy
