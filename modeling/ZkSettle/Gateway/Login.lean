import ZkSettle.Gateway.Nonces
import ZkSettle.Gateway.Siws
import ZkSettle.Library.Base64
import ZkSettle.Library.Runs
import ZkSettle.Library.Slots

/-!
# Logins

A login reads the signed message, takes its nonce out of the store, looks at the age of the
nonce, checks the message and the signature, and asks the database for the tenant. Challenges,
evictions and other logins may come between any two of these. Whoever gets through has used
a nonce that no one else has used.
-/
namespace ZkSettle.Gateway.SignIn

open Checks Program

/-! ## Requests -/

inductive CookieSameSite where
  | strict
  | lax
  | none
  deriving DecidableEq, Repr

/-- The settings that a login reads. -/
structure Config where
  jwtSecret : Option String
  siwsDomain : Option String
  jwtTtlSecs : Nat
  cookieSecure : Bool
  cookieSameSite : CookieSameSite

structure LoginRequest where
  account : String
  signedMessage : String
  signature : String

structure Tenant where
  id : String
  wallet : String
  tier : String

structure Cookie where
  name : String
  value : String
  httpOnly : Bool
  secure : Bool
  sameSite : CookieSameSite
  path : String
  maxAge : Nat

structure LoginResponse where
  tenantId : String
  wallet : String
  tier : String

/-- What a login keeps of its request. -/
structure SignedMessage where
  messageBytes : List UInt8
  signatureBytes : List UInt8
  parsed : SiwsMessage

/-- `str::from_utf8` -/
def fromUtf8 (bytes : List UInt8) : Option String := String.fromUTF8? ⟨bytes.toArray⟩

/-- Up to the nonce. -/
def readRequest (standard : Base64.Engine) (config : Config) (body : LoginRequest) :
    Except GatewayError SignedMessage := do
  let _ ← okOr config.jwtSecret (.config "jwt_secret not configured")
  let messageBytes ← okOr (standard.decode body.signedMessage) .invalidMessage
  let signatureBytes ← okOr (standard.decode body.signature) .invalidSignature
  let messageStr ← okOr (fromUtf8 messageBytes) .invalidMessage
  let parsed ← parseMessage messageStr
  require (parsed.address = body.account) GatewayError.invalidMessage
  pure { messageBytes, signatureBytes, parsed }

/-- From the nonce to the database. -/
def checkRequest (ed : Ed25519) (config : Config) (body : LoginRequest) (message : SignedMessage)
    (now : Nat) : Except Failure Unit := do
  let domain ← okOr config.siwsDomain (.refused (.config "siws_domain must be configured"))
  validateMessage message.parsed now (some domain)
  (verifySignature ed body.account message.messageBytes message.signatureBytes).mapError .refused

def sessionCookie (config : Config) (token : String) : Cookie where
  name := "session"
  value := token
  httpOnly := true
  secure := config.cookieSecure
  sameSite := config.cookieSameSite
  path := "/"
  maxAge := config.jwtTtlSecs

/-! ## One login -/

/-- Where a login stands: before the rate limiter, the removal of its nonce, the look at the
nonce's age, the checks at a time of the wall clock, the database; or at its end. -/
inductive Stage where
  | entered
  | read (message : SignedMessage)
  | removed (message : SignedMessage) (created : Nat)
  | consumed (message : SignedMessage) (consumedAt : Nat)
  | verified (message : SignedMessage) (consumedAt now : Nat)
  | succeeded (message : SignedMessage) (consumedAt now : Nat) (cookie : Cookie)
      (response : LoginResponse)
  | failed (failure : Failure)

/-- A login, and the nonce that it has removed from the store, with its time. -/
structure Login where
  body : LoginRequest
  stage : Stage
  used : Option (String × Nat)

def Login.begin (body : LoginRequest) : Login where
  body
  stage := .entered
  used := none

/-- What a login is answered by the rate limiter, the wall clock, the database and the
encoder of tokens. -/
structure Answers where
  permitted : Bool
  now : Nat
  tenant : Except GatewayError Tenant
  token : Except GatewayError String

def Login.fail (login : Login) (failure : Failure) : Login :=
  { login with stage := .failed failure }

def Login.advance (standard : Base64.Engine) (ed : Ed25519) (config : Config)
    (store : NonceStore) (clock : Nat) (answers : Answers) (login : Login) :
    Except Unit (NonceStore × Login) :=
  match login.stage with
  | .entered =>
    if answers.permitted then
      match readRequest standard config login.body with
      | .ok message => .ok (store, { login with stage := .read message })
      | .error error => .ok (store, login.fail (.refused error))
    else .ok (store, login.fail (.refused .rateLimited))
  -- the entry goes whatever its age, and the clock is read after that
  | .read message =>
    match store.remove message.parsed.nonce with
    | (some created, rest) =>
      .ok (rest, { login with
        stage := .removed message created, used := some (message.parsed.nonce, created) })
    | (none, rest) => .ok (rest, login.fail (.refused .invalidMessage))
  | .removed message created =>
    if unexpired clock created then .ok (store, { login with stage := .consumed message clock })
    else .ok (store, login.fail (.refused .invalidMessage))
  | .consumed message consumedAt =>
    match checkRequest ed config login.body message answers.now with
    | .ok _ => .ok (store, { login with stage := .verified message consumedAt answers.now })
    | .error failure => .ok (store, login.fail failure)
  | .verified message consumedAt now =>
    match answers.tenant, answers.token with
    | .error error, _ => .ok (store, login.fail (.refused error))
    | .ok _, .error error => .ok (store, login.fail (.refused error))
    | .ok tenant, .ok token =>
      .ok (store, { login with
        stage := .succeeded message consumedAt now (sessionCookie config token)
          { tenantId := tenant.id, wallet := tenant.wallet, tier := tenant.tier } })
  | .succeeded .. => .error ()
  | .failed _ => .error ()

/-! ## All logins -/

/-- The store, the challenges that were handed out, each with its time, the logins, and the
monotonic clock. -/
structure System where
  store : NonceStore
  issued : List (String × Nat)
  logins : List Login
  clock : Nat

inductive Action where
  | challenge (nonce : String)
  | arrive (body : LoginRequest)
  | advance (id : Nat) (answers : Answers)
  | evictExpired
  | wait (nanos : Nat)

def step (standard : Base64.Engine) (ed : Ed25519) (config : Config) (s : System) :
    Action → Except Unit System
  | .challenge nonce =>
    .ok { s with store := s.store.issue nonce s.clock, issued := (nonce, s.clock) :: s.issued }
  | .arrive body => .ok { s with logins := s.logins ++ [.begin body] }
  | .advance id answers =>
    match s.logins[id]? with
    | none => .error ()
    | some login => do
      let (store, login) ← login.advance standard ed config s.store s.clock answers
      .ok { s with store, logins := s.logins.set id login }
  | .evictExpired => .ok { s with store := s.store.evictExpired s.clock }
  | .wait nanos => .ok { s with clock := s.clock + nanos }

def run (standard : Base64.Engine) (ed : Ed25519) (config : Config) (s : System)
    (actions : List Action) : System :=
  Transactional.run (step standard ed config) s actions

def System.start (clock : Nat) : System where
  store := .new
  issued := []
  logins := []
  clock

/-- A challenge is not one that was handed out before. -/
def Fresh (s : System) : Action → Prop
  | .challenge nonce => nonce ∉ s.issued.map Prod.fst
  | .arrive _ => True
  | .advance _ _ => True
  | .evictExpired => True
  | .wait _ => True

/-! ## What a login has shown -/

section Invariant

variable {standard : Base64.Engine} {ed : Ed25519} {config : Config}

/-- The message is in the bytes of the request, and names its account. -/
structure Reads (standard : Base64.Engine) (body : LoginRequest) (message : SignedMessage) :
    Prop where
  sent : standard.decode body.signedMessage = some message.messageBytes
  signature : standard.decode body.signature = some message.signatureBytes
  text : ∃ text, fromUtf8 message.messageBytes = some text ∧ Written text message.parsed
  account : message.parsed.address = body.account

theorem readRequest_ok {body : LoginRequest} {message : SignedMessage}
    (read : readRequest standard config body = .ok message) : Reads standard body message := by
  simp only [readRequest, bind_eq_ok, okOr_eq_ok, require_eq_ok, pure_eq_ok] at read
  obtain ⟨-, -, messageBytes, decoded, signatureBytes, decoded', text, valid, parsed, parse, -,
    same, rfl⟩ := read
  exact ⟨decoded, decoded', ⟨text, valid, parseMessage_written parse⟩, same⟩

/-- The message is valid at a time, for the configured domain, and signed by the account. -/
structure Authentic (ed : Ed25519) (config : Config) (body : LoginRequest) (message : SignedMessage)
    (now : Nat) : Prop where
  valid : ∃ domain, config.siwsDomain = some domain ∧ Valid message.parsed now domain
  signed : Signs ed body.account message.messageBytes message.signatureBytes

theorem checkRequest_ok {body : LoginRequest} {message : SignedMessage} {now : Nat}
    (checked : checkRequest ed config body message now = .ok ()) :
    Authentic ed config body message now := by
  simp only [checkRequest, bind_eq_ok, okOr_eq_ok, mapError_eq_ok] at checked
  obtain ⟨domain, configured, ⟨⟩, valid, signed⟩ := checked
  exact ⟨⟨domain, configured, validateMessage_ok valid⟩, verifySignature_ok signed⟩

/-- What a login does in one step, from its stage and the store to the next ones. -/
inductive Advanced (standard : Base64.Engine) (ed : Ed25519) (config : Config)
    (store : NonceStore) (clock : Nat) (login : Login) : NonceStore → Login → Prop where
  | failed (failure : Failure) : Advanced standard ed config store clock login store
      (login.fail failure)
  | absent (message : SignedMessage) (failure : Failure) :
      Advanced standard ed config store clock login (store.remove message.parsed.nonce).2
        (login.fail failure)
  | read (message : SignedMessage) (stage : login.stage = .entered)
      (read : readRequest standard config login.body = .ok message) :
      Advanced standard ed config store clock login store { login with stage := .read message }
  | removed (message : SignedMessage) (created : Nat) (stage : login.stage = .read message)
      (pending : (message.parsed.nonce, created) ∈ store.pending) :
      Advanced standard ed config store clock login (store.remove message.parsed.nonce).2
        { login with
          stage := .removed message created, used := some (message.parsed.nonce, created) }
  | consumed (message : SignedMessage) (created : Nat)
      (stage : login.stage = .removed message created) (young : clock - created < NONCE_TTL) :
      Advanced standard ed config store clock login store
        { login with stage := .consumed message clock }
  | verified (message : SignedMessage) (consumedAt now : Nat)
      (stage : login.stage = .consumed message consumedAt)
      (checked : checkRequest ed config login.body message now = .ok ()) :
      Advanced standard ed config store clock login store
        { login with stage := .verified message consumedAt now }
  | succeeded (message : SignedMessage) (consumedAt now : Nat) (cookie : Cookie)
      (response : LoginResponse) (stage : login.stage = .verified message consumedAt now) :
      Advanced standard ed config store clock login store
        { login with stage := .succeeded message consumedAt now cookie response }

theorem advance_cases {store store' : NonceStore} {clock : Nat} {answers : Answers}
    {login login' : Login}
    (advanced : login.advance standard ed config store clock answers = .ok (store', login')) :
    Advanced standard ed config store clock login store' login' := by
  obtain ⟨body, stage, used⟩ := login
  cases stage with
  | entered =>
    simp only [Login.advance] at advanced
    split at advanced
    · split at advanced
      next message read =>
        cases advanced
        exact .read message rfl read
      next =>
        cases advanced
        exact .failed _
    · cases advanced
      exact .failed _
  | read message =>
    simp only [Login.advance] at advanced
    split at advanced
    next created rest removed =>
      have pending := NonceStore.mem_of_remove (congrArg Prod.fst removed)
      obtain rfl : (store.remove message.parsed.nonce).2 = rest := congrArg Prod.snd removed
      cases advanced
      exact .removed message created rfl pending
    next rest removed =>
      obtain rfl : (store.remove message.parsed.nonce).2 = rest := congrArg Prod.snd removed
      cases advanced
      exact .absent message _
  | removed message created =>
    simp only [Login.advance] at advanced
    split at advanced
    next young =>
      cases advanced
      exact .consumed message created rfl (of_decide_eq_true young)
    next =>
      cases advanced
      exact .failed _
  | consumed message consumedAt =>
    simp only [Login.advance] at advanced
    split at advanced
    next checked =>
      cases advanced
      exact .verified message consumedAt answers.now rfl checked
    next =>
      cases advanced
      exact .failed _
  | verified message consumedAt now =>
    simp only [Login.advance] at advanced
    split at advanced
    · cases advanced
      exact .failed _
    · cases advanced
      exact .failed _
    · cases advanced
      exact .succeeded message consumedAt now _ _ rfl
  | succeeded message consumedAt now cookie response => cases advanced
  | failed failure => cases advanced

/-- The login has used the nonce before it expired. -/
def Consumed (login : Login) (nonce : String) (consumedAt : Nat) : Prop :=
  ∃ created, login.used = some (nonce, created) ∧ created ≤ consumedAt ∧
    consumedAt - created < NONCE_TTL

def Sound (standard : Base64.Engine) (ed : Ed25519) (config : Config) (login : Login) : Prop :=
  match login.stage with
  | .entered => login.used = none
  | .read message => login.used = none ∧ Reads standard login.body message
  | .removed message created =>
    login.used = some (message.parsed.nonce, created) ∧ Reads standard login.body message
  | .consumed message consumedAt =>
    Consumed login message.parsed.nonce consumedAt ∧ Reads standard login.body message
  | .verified message consumedAt now | .succeeded message consumedAt now _ _ =>
    Consumed login message.parsed.nonce consumedAt ∧ Reads standard login.body message ∧
      Authentic ed config login.body message now
  | .failed _ => True

theorem Sound.advance {store store' : NonceStore} {clock : Nat} {login login' : Login}
    (sound : Sound standard ed config login)
    (past : ∀ entry, login.used = some entry → entry.2 ≤ clock)
    (advanced : Advanced standard ed config store clock login store' login') :
    Sound standard ed config login' := by
  cases advanced with
  | failed failure => trivial
  | absent message failure => trivial
  | read message stage read =>
    rw [Sound, stage] at sound
    exact ⟨sound, readRequest_ok read⟩
  | removed message created stage pending =>
    rw [Sound, stage] at sound
    exact ⟨rfl, sound.2⟩
  -- the clock has not gone back since the nonce was issued
  | consumed message created stage young =>
    rw [Sound, stage] at sound
    exact ⟨⟨created, sound.1, past _ sound.1, young⟩, sound.2⟩
  | verified message consumedAt now stage checked =>
    rw [Sound, stage] at sound
    exact ⟨sound.1, sound.2, checkRequest_ok checked⟩
  | succeeded message consumedAt now cookie response stage =>
    rw [Sound, stage] at sound
    exact sound

/-- Entries only go. -/
theorem Advanced.fewer {store store' : NonceStore} {clock : Nat} {login login' : Login}
    (advanced : Advanced standard ed config store clock login store' login') :
    ∀ entry ∈ store'.pending, entry ∈ store.pending := by
  intro entry kept
  cases advanced with
  | absent message failure => exact (NonceStore.mem_remove.mp kept).1
  | removed message created stage pending => exact (NonceStore.mem_remove.mp kept).1
  | _ => exact kept

/-- What a login has used after a step was its own before, or is taken out of the store. -/
theorem Advanced.own {store store' : NonceStore} {clock : Nat} {login login' : Login}
    (advanced : Advanced standard ed config store clock login store' login') {nonce : String}
    {created : Nat} (used : login'.used = some (nonce, created)) :
    login.used = some (nonce, created) ∨
      (nonce, created) ∈ store.pending ∧ ∀ time, (nonce, time) ∉ store'.pending := by
  cases advanced with
  | removed message time stage pending =>
    cases used
    exact Or.inr ⟨pending, fun time kept => (NonceStore.mem_remove.mp kept).2 rfl⟩
  | _ => exact Or.inl used

/-! ## One nonce, one login -/

/-- What is pending was handed out, and a used nonce is not pending and has one user. -/
structure Guarded (standard : Base64.Engine) (ed : Ed25519) (config : Config) (s : System) :
    Prop where
  pending : ∀ entry ∈ s.store.pending, entry ∈ s.issued
  times : ∀ entry ∈ s.issued, entry.2 ≤ s.clock
  used : ∀ login ∈ s.logins, ∀ nonce created, login.used = some (nonce, created) →
    (nonce, created) ∈ s.issued ∧ ∀ time, (nonce, time) ∉ s.store.pending
  single : Slots.HeldOnce (fun login nonce => ∃ created, login.used = some (nonce, created))
    s.logins
  sound : ∀ login ∈ s.logins, Sound standard ed config login

theorem guarded_start (clock : Nat) : Guarded standard ed config (.start clock) where
  pending := fun _ member => absurd member List.not_mem_nil
  times := fun _ member => absurd member List.not_mem_nil
  used := fun _ member => absurd member List.not_mem_nil
  single := fun _ _ _ _ _ found => absurd (List.mem_of_getElem? found) List.not_mem_nil
  sound := fun _ member => absurd member List.not_mem_nil

theorem Guarded.challenge {s : System} (guarded : Guarded standard ed config s) {nonce : String}
    (fresh : nonce ∉ s.issued.map Prod.fst) :
    Guarded standard ed config
      { s with store := s.store.issue nonce s.clock, issued := (nonce, s.clock) :: s.issued } where
  pending entry member := by
    rcases NonceStore.mem_issue.mp member with rfl | ⟨earlier, -⟩
    · exact List.mem_cons_self
    · exact List.mem_cons_of_mem _ (guarded.pending entry earlier)
  times entry member := by
    rcases List.mem_cons.mp member with rfl | earlier
    · exact Nat.le_refl _
    · exact guarded.times entry earlier
  used login member other created removed := by
    obtain ⟨issued, gone⟩ := guarded.used login member other created removed
    refine ⟨List.mem_cons_of_mem _ issued, fun time pending => ?_⟩
    rcases NonceStore.mem_issue.mp pending with same | ⟨earlier, -⟩
    · -- a used nonce was handed out, and so is not the new one
      cases same
      exact fresh (List.mem_map_of_mem issued)
    · exact gone time earlier
  single := guarded.single
  sound := guarded.sound

theorem Guarded.arrive {s : System} (guarded : Guarded standard ed config s)
    (body : LoginRequest) :
    Guarded standard ed config { s with logins := s.logins ++ [.begin body] } where
  pending := guarded.pending
  times := guarded.times
  used login member nonce created removed := by
    rcases List.mem_append.mp member with earlier | new
    · exact guarded.used login earlier nonce created removed
    · rw [List.mem_singleton.mp new] at removed
      cases removed
  single := guarded.single.snoc (by rintro nonce ⟨created, ⟨⟩⟩)
  sound login member := by
    rcases List.mem_append.mp member with earlier | new
    · exact guarded.sound login earlier
    · rw [List.mem_singleton.mp new]
      rfl

/-- Entries may go, and time may pass. -/
theorem Guarded.shrink {s : System} (guarded : Guarded standard ed config s)
    {store : NonceStore} (fewer : ∀ entry ∈ store.pending, entry ∈ s.store.pending) {clock : Nat}
    (later : s.clock ≤ clock) : Guarded standard ed config { s with store, clock } where
  pending entry member := guarded.pending entry (fewer entry member)
  times entry member := Nat.le_trans (guarded.times entry member) later
  used login member nonce created removed := by
    obtain ⟨issued, gone⟩ := guarded.used login member nonce created removed
    exact ⟨issued, fun time pending => gone time (fewer _ pending)⟩
  single := guarded.single
  sound := guarded.sound

theorem Guarded.advance {s : System} (guarded : Guarded standard ed config s) {id : Nat}
    {login login' : Login} {store : NonceStore}
    (found : s.logins[id]? = some login)
    (advanced : Advanced standard ed config s.store s.clock login store login') :
    Guarded standard ed config { s with store, logins := s.logins.set id login' } := by
  have member := List.mem_of_getElem? found
  have past : ∀ entry, login.used = some entry → entry.2 ≤ s.clock :=
    fun entry removed => guarded.times entry (guarded.used login member _ _ removed).1
  refine ⟨fun entry kept => guarded.pending entry (advanced.fewer entry kept), guarded.times, ?_,
    ?_, ?_⟩
  · intro other there nonce created used
    rcases List.mem_or_eq_of_mem_set there with before | rfl
    · obtain ⟨issued, gone⟩ := guarded.used other before nonce created used
      exact ⟨issued, fun time kept => gone time (advanced.fewer _ kept)⟩
    · rcases advanced.own used with before | ⟨was, gone⟩
      · obtain ⟨issued, gone⟩ := guarded.used login member nonce created before
        exact ⟨issued, fun time kept => gone time (advanced.fewer _ kept)⟩
      · exact ⟨guarded.pending _ was, gone⟩
  · apply guarded.single.set found
    rintro nonce ⟨created, used⟩
    rcases advanced.own used with before | ⟨was, -⟩
    · exact Or.inl ⟨created, before⟩
    · -- it was pending, so no login had used it
      refine Or.inr ?_
      rintro other there ⟨created', used'⟩
      exact (guarded.used other there nonce created' used').2 _ was
  · intro other there
    rcases List.mem_or_eq_of_mem_set there with before | rfl
    · exact guarded.sound other before
    · exact (guarded.sound login member).advance past advanced

theorem guarded_step {s next : System} {action : Action}
    (guarded : Guarded standard ed config s) (fresh : Fresh s action)
    (accepted : step standard ed config s action = .ok next) :
    Guarded standard ed config next := by
  cases action with
  | challenge nonce =>
    cases accepted
    exact guarded.challenge fresh
  | arrive body =>
    cases accepted
    exact guarded.arrive body
  | advance id answers =>
    rw [step] at accepted
    split at accepted
    next => cases accepted
    next login found =>
      obtain ⟨⟨store, login'⟩, advanced, same⟩ := bind_eq_ok.mp accepted
      cases same
      exact guarded.advance found (advance_cases advanced)
  | evictExpired =>
    cases accepted
    exact guarded.shrink (fun entry kept => (NonceStore.mem_evictExpired.mp kept).1)
      (Nat.le_refl _)
  | wait nanos =>
    cases accepted
    exact guarded.shrink (fun entry kept => kept) (Nat.le_add_right _ _)

/-- The nonce was handed out less than its time to live before, and no other login has
used it. -/
structure UsedOnce (s : System) (id : Nat) (nonce : String) (consumedAt : Nat) : Prop where
  issued : ∃ created, (nonce, created) ∈ s.issued ∧ created ≤ consumedAt ∧
    consumedAt - created < NONCE_TTL
  alone : ∀ id' login created, s.logins[id']? = some login →
    login.used = some (nonce, created) → id' = id

/-- Every login that succeeds has used a nonce that is its own and not expired, and has shown
the message with it that the account has signed. -/
theorem succeeded_authentic {clock : Nat} {actions : List Action}
    (fresh : Transactional.Meets (step standard ed config) Fresh (.start clock) actions)
    {id : Nat} {login : Login} {message : SignedMessage} {consumedAt now : Nat} {cookie : Cookie}
    {response : LoginResponse}
    (found : (run standard ed config (.start clock) actions).logins[id]? = some login)
    (succeeded : login.stage = .succeeded message consumedAt now cookie response) :
    UsedOnce (run standard ed config (.start clock) actions) id message.parsed.nonce consumedAt ∧
      Reads standard login.body message ∧ Authentic ed config login.body message now := by
  have preserved : ∀ s action next, Guarded standard ed config s → Fresh s action →
      step standard ed config s action = .ok next → Guarded standard ed config next :=
    fun s action next guarded allowed accepted => guarded_step guarded allowed accepted
  have guarded := Transactional.run_invariant_of_meets preserved _ _ fresh (guarded_start clock)
  have sound := guarded.sound login (List.mem_of_getElem? found)
  rw [Sound, succeeded] at sound
  obtain ⟨⟨created, used, before, young⟩, reads, authentic⟩ := sound
  have issued := (guarded.used login (List.mem_of_getElem? found) _ _ used).1
  refine ⟨⟨⟨created, issued, before, young⟩, fun id' other created' there taken => ?_⟩, reads,
    authentic⟩
  exact guarded.single id' id other login _ there found ⟨created', taken⟩ ⟨created, used⟩

end Invariant

/-! ## A login -/

theorem fromUtf8_toUTF8 (text : String) : fromUtf8 text.toUTF8.data.toList = some text := by
  have bytes : (⟨text.toUTF8.data.toList.toArray⟩ : ByteArray) = text.toUTF8 := by
    rw [Array.toArray_toList]
  have valid : text.toUTF8.IsValidUTF8 := text.isValidUTF8
  rw [fromUtf8, bytes, String.fromUTF8?, dif_pos valid]
  rfl

/-- The request of a wallet that has signed a text. -/
def LoginRequest.of (standard : Base64.Engine) (account text : String) (signature : List UInt8) :
    LoginRequest where
  account
  signedMessage := standard.encode text.toUTF8.data.toList
  signature := standard.encode signature

def SignedMessage.of (text : String) (signature : List UInt8) (parsed : SiwsMessage) :
    SignedMessage where
  messageBytes := text.toUTF8.data.toList
  signatureBytes := signature
  parsed

/-- A request is read back. -/
theorem readRequest_of {standard : Base64.Engine} {config : Config} {text : String}
    {parsed : SiwsMessage} (signature : List UInt8) (configured : config.jwtSecret.isSome = true)
    (parse : parseMessage text = .ok parsed) :
    readRequest standard config (.of standard parsed.address text signature) =
      .ok (.of text signature parsed) := by
  obtain ⟨secret, configured⟩ := Option.isSome_iff_exists.mp configured
  simp only [readRequest, LoginRequest.of, standard.decode_encode, bind_eq_ok, okOr_eq_ok,
    pure_eq_ok]
  exact ⟨secret, configured, _, rfl, _, rfl, text, fromUtf8_toUTF8 text, parsed, parse, ⟨⟩,
    if_pos rfl, rfl⟩

def wallet : String := "2iXtA8oeZqUU5pofxK971TCEvFGfems2AcDRaZHKD2pQ"

def walletDigits : List Nat :=
  [1, 41, 30, 51, 9, 7, 46, 37, 32, 48, 27, 27, 4, 47, 46, 38, 55, 18, 8, 6, 0, 26, 11, 13, 53,
    14, 15, 38, 37, 44, 50, 1, 9, 35, 12, 24, 33, 32, 16, 18, 12, 1, 47, 23]

def walletKey : List UInt8 :=
  [25, 127, 107, 35, 225, 108, 133, 50, 198, 171, 200, 56, 250, 205, 94, 167, 137, 190, 12, 118,
    178, 146, 3, 52, 3, 155, 250, 139, 61, 54, 141, 97]

theorem decode_wallet : Base58.decode wallet = some walletKey := by
  have digits : wallet.toList.mapM Base58.digitValue = some walletDigits := by decide
  have number : Base58.value 58 walletDigits = Base58.value 256 (walletKey.map UInt8.toNat) := by
    rfl
  have key : ∀ digit ∈ walletKey.map UInt8.toNat, digit < 256 := by decide
  rw [Base58.decode, digits, Option.map_some, Base58.convert, number,
    Base58.minimal_value (by decide) key (by decide)]
  rfl

def signInLines : List (List Char) :=
  ["localhost wants you to sign in with your Solana account:".toList, wallet.toList, [],
    "Sign in to the dashboard".toList, [], "Nonce: abcd1234efgh5678".toList,
    "Issued At: 2026-05-02T12:00:00Z".toList]

def expirationLine : List Char := "Expiration Time: 2026-05-02T13:00:00Z".toList

def signInText : String := .ofList (List.intercalate ['\n'] (signInLines ++ [expirationLine]))

def signIn : SiwsMessage where
  domain := "localhost"
  address := wallet
  statement := some "Sign in to the dashboard"
  uri := none
  version := none
  chainId := none
  nonce := "abcd1234efgh5678"
  issuedAt := "2026-05-02T12:00:00Z"
  expirationTime := some "2026-05-02T13:00:00Z"

theorem parse_signIn : parseMessage signInText = .ok signIn := by
  have lines : Text.lines signInText.toList = signInLines ++ [expirationLine] := by
    rw [signInText, String.toList_ofList]
    exact Text.lines_intercalate signInLines (by decide) (by decide) (by decide)
  rw [parseMessage, lines]
  rfl

/-- The signature of the message under the key with the seed of 32 bytes 42. -/
def signInSignature : List UInt8 :=
  [240, 246, 191, 221, 172, 54, 111, 52, 205, 110, 124, 22, 55, 169, 0, 212, 37, 181, 124, 34,
    138, 227, 110, 181, 219, 71, 59, 172, 161, 54, 149, 159, 221, 91, 82, 191, 224, 84, 127, 154,
    252, 243, 251, 194, 168, 1, 38, 172, 58, 124, 90, 97, 96, 220, 214, 149, 7, 251, 213, 36, 220,
    185, 96, 7]

def signInMessage : SignedMessage := .of signInText signInSignature signIn

/-- A scheme with one key and one signature. -/
def Ed25519.only (key message signature : List UInt8) : Ed25519 where
  fromBytes pubkey := pubkey.bytes == key
  verifyStrict pubkey signed proof :=
    pubkey.bytes == key && signed == message && proof == signature

theorem verifySignature_only {key message signature : List UInt8} {account : String}
    (decoded : Base58.decode account = some key) (short : key.length = 32)
    (long : signature.length = 64) :
    verifySignature (Ed25519.only key message signature) account message signature = .ok () := by
  have whole : tryIntoBytes32 key = some ⟨key, short⟩ := dif_pos short
  simp only [verifySignature, bind_eq_ok, okOr_eq_ok, require_eq_ok]
  exact ⟨key, decoded, ⟨key, short⟩, whole, ⟨⟩, by simp [Ed25519.only], ⟨⟩, long,
    by simp [Ed25519.only]⟩

def oneSignature : Ed25519 := Ed25519.only walletKey signInMessage.messageBytes signInSignature

def settings : Config where
  jwtSecret := some "secret"
  siwsDomain := some "localhost"
  jwtTtlSecs := 86400
  cookieSecure := true
  cookieSameSite := .lax

def signInRequest : LoginRequest :=
  .of Base64.standard signIn.address signInText signInSignature

/-- A hundred seconds after the message was issued. -/
def signInAnswers : Answers where
  permitted := true
  now := 1777723300
  tenant := .ok { id := "tenant", wallet, tier := "developer" }
  token := .ok "token"

theorem read_signIn : readRequest Base64.standard settings signInRequest = .ok signInMessage :=
  readRequest_of signInSignature rfl parse_signIn

theorem validate_signIn : validateMessage signIn 1777723300 (some "localhost") = .ok () := by
  decide

theorem verify_signIn :
    verifySignature oneSignature wallet signInMessage.messageBytes signInSignature = .ok () :=
  verifySignature_only decode_wallet (by decide) (by decide)

theorem signInRequest_account : signInRequest.account = wallet := rfl

theorem signInMessage_parsed : signInMessage.parsed = signIn := rfl

theorem signInMessage_signature : signInMessage.signatureBytes = signInSignature := rfl

theorem check_signIn :
    checkRequest oneSignature settings signInRequest signInMessage 1777723300 = .ok () := by
  simp only [checkRequest, bind_eq_ok, okOr_eq_ok, mapError_eq_ok, signInRequest_account,
    signInMessage_parsed, signInMessage_signature]
  exact ⟨"localhost", rfl, ⟨⟩, validate_signIn, verify_signIn⟩

theorem step_advance {standard : Base64.Engine} {ed : Ed25519} {config : Config} {s : System}
    {id : Nat} {answers : Answers} {login login' : Login} {store : NonceStore}
    (found : s.logins[id]? = some login)
    (advanced : login.advance standard ed config s.store s.clock answers = .ok (store, login')) :
    step standard ed config s (.advance id answers) =
      .ok { s with store, logins := s.logins.set id login' } := by
  rw [step, found]
  simp only [advanced]
  rfl

section Success

variable {standard : Base64.Engine} {ed : Ed25519} {config : Config} {store rest : NonceStore}
  {clock created : Nat} {body : LoginRequest} {message : SignedMessage} {tenant : Tenant}
  {token : String}

/-- A login that no one interrupts succeeds, when its nonce is there and young, its checks go
through, and the database and the encoder answer. -/
theorem run_succeeds (answers : Answers) (permitted : answers.permitted = true)
    (read : readRequest standard config body = .ok message)
    (removed : store.remove message.parsed.nonce = (some created, rest))
    (young : unexpired clock created = true)
    (checked : checkRequest ed config body message answers.now = .ok ())
    (found : answers.tenant = .ok tenant) (encoded : answers.token = .ok token)
    (issued : List (String × Nat)) :
    run standard ed config { store, issued, logins := [.begin body], clock }
        (List.replicate 5 (.advance 0 answers)) =
      { store := rest
        issued
        logins := [{ body
                     stage := .succeeded message clock answers.now (sessionCookie config token)
                       { tenantId := tenant.id, wallet := tenant.wallet, tier := tenant.tier }
                     used := some (message.parsed.nonce, created) }]
        clock } := by
  have entered : (Login.begin body).advance standard ed config store clock answers =
      .ok (store, { body, stage := .read message, used := none }) := by
    simp only [Login.advance, Login.begin, permitted, if_true, read]
  have taken : Login.advance standard ed config store clock answers
      { body, stage := .read message, used := none } =
        .ok (rest, { body, stage := .removed message created,
                     used := some (message.parsed.nonce, created) }) := by
    simp only [Login.advance, removed]
  have aged : Login.advance standard ed config rest clock answers
      { body, stage := .removed message created, used := some (message.parsed.nonce, created) } =
        .ok (rest, { body, stage := .consumed message clock,
                     used := some (message.parsed.nonce, created) }) := by
    simp only [Login.advance, young, if_true]
  have verified : Login.advance standard ed config rest clock answers
      { body, stage := .consumed message clock, used := some (message.parsed.nonce, created) } =
        .ok (rest, { body, stage := .verified message clock answers.now,
                     used := some (message.parsed.nonce, created) }) := by
    simp only [Login.advance, checked]
  have answered : Login.advance standard ed config rest clock answers
      { body, stage := .verified message clock answers.now,
        used := some (message.parsed.nonce, created) } =
        .ok (rest, {
          body
          stage := .succeeded message clock answers.now (sessionCookie config token)
            { tenantId := tenant.id, wallet := tenant.wallet, tier := tenant.tier }
          used := some (message.parsed.nonce, created) }) := by
    simp only [Login.advance, found, encoded]
  simp only [List.replicate]
  rw [run, Transactional.run_cons_ok (step_advance rfl entered),
    Transactional.run_cons_ok (step_advance rfl taken),
    Transactional.run_cons_ok (step_advance rfl aged),
    Transactional.run_cons_ok (step_advance rfl verified),
    Transactional.run_cons_ok (step_advance rfl answered)]
  rfl

/-- A challenge, and a login some time later. -/
theorem run_challenge (nonce : String) (nanos : Nat) (body : LoginRequest)
    (later : List Action) :
    run standard ed config (.start 0)
        (.challenge nonce :: ([.wait nanos, .arrive body] ++ later)) =
      run standard ed config
        { store := { pending := [(nonce, 0)] }
          issued := [(nonce, 0)]
          logins := [.begin body]
          clock := nanos } later := by
  simp only [run, List.cons_append, List.nil_append]
  rw [Transactional.run_cons_ok rfl, Transactional.run_cons_ok rfl, Transactional.run_cons_ok rfl]
  simp [System.start, NonceStore.issue, NonceStore.remove, NonceStore.new]

theorem fresh_challenge (nonce : String) {later : List Action}
    (others : ∀ action ∈ later, ∀ s, Fresh s action) :
    Transactional.Meets (step standard ed config) Fresh (.start 0) (.challenge nonce :: later) := by
  refine .cons rfl List.not_mem_nil ?_
  exact Transactional.meets_of_forall _ _ others

end Success

/-- A challenge, a minute, and a login. -/
def signInActions : List Action :=
  .challenge signIn.nonce :: ([.wait (60 * 1000000000), .arrive signInRequest] ++
    List.replicate 5 (.advance 0 signInAnswers))

def signedIn : Login where
  body := signInRequest
  stage := .succeeded signInMessage (60 * 1000000000) 1777723300 (sessionCookie settings "token")
    { tenantId := "tenant", wallet, tier := "developer" }
  used := some (signIn.nonce, 0)

theorem run_signIn :
    (run Base64.standard oneSignature settings (.start 0) signInActions).logins[0]? =
      some signedIn := by
  have removed : NonceStore.remove { pending := [(signIn.nonce, 0)] } signInMessage.parsed.nonce =
      (some 0, .new) := by
    rw [signInMessage_parsed]
    simp [NonceStore.remove, NonceStore.new]
  have young : unexpired (60 * 1000000000) 0 = true := by decide
  have reached := run_succeeds signInAnswers rfl read_signIn removed young check_signIn rfl rfl
    [(signIn.nonce, 0)]
  rw [signInActions, run_challenge, reached]
  rfl

theorem fresh_signIn : Transactional.Meets (step Base64.standard oneSignature settings) Fresh
    (.start 0) signInActions := by
  rw [signInActions]
  refine fresh_challenge signIn.nonce fun action member s => ?_
  rcases List.mem_append.mp member with before | after
  · rcases List.mem_pair.mp before with rfl | rfl
    · trivial
    · trivial
  · rw [List.eq_of_mem_replicate after]
    trivial

theorem succeeded_authentic_signIn :
    UsedOnce (run Base64.standard oneSignature settings (.start 0) signInActions) 0
        signIn.nonce (60 * 1000000000) ∧
      Reads Base64.standard signInRequest signInMessage ∧
        Authentic oneSignature settings signInRequest signInMessage 1777723300 :=
  succeeded_authentic fresh_signIn run_signIn rfl

end ZkSettle.Gateway.SignIn
