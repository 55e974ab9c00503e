import Mathlib.Data.List.Sort
import ZkSettle.Gateway.Login
import ZkSettle.Library.Numerals
import ZkSettle.Library.Sha256

/-!
# Tenants and API keys

The two tables of the gateway's database that say who may call it, what its handlers read
from a request before they go there, and one function for each statement that they send. A
statement is atomic. The constraints of the tables are those of the migrations: both have a
primary key, a wallet has one tenant, and the tenant of a key is in its table.
-/
namespace ZkSettle.Gateway.Tenancy

open Checks Program

/-- The errors that are left to the handlers of keys and sessions. -/
inductive Refusal where
  | unauthorized
  | keyNotFound
  | forbidden
  | notFound
  | config (message : String)
  | database (message : String)
  deriving DecidableEq, Repr

/-! ## The tables -/

/-- `tenant::Model` -/
structure TenantRow where
  id : String
  wallet : String
  name : Option String
  tier : String
  createdAt : Nat
  deriving DecidableEq

/-- `api_key::Model` -/
structure KeyRow where
  keyHash : String
  owner : String
  tier : String
  createdAt : Nat
  tenantId : Option String
  deriving DecidableEq

structure ApiKeyRecord where
  keyHash : String
  tier : Tier
  owner : String
  createdAt : Nat
  deriving DecidableEq

structure Database where
  tenants : List TenantRow
  apiKeys : List KeyRow

def Database.empty : Database where
  tenants := []
  apiKeys := []

/-- `Display` -/
def tierText : Tier → String
  | .developer => "developer"
  | .startup => "startup"
  | .growth => "growth"
  | .enterprise => "enterprise"

/-- `FromStr` -/
def parseTier (s : String) : Except String Tier :=
  if s = "developer" then .ok .developer
  else if s = "startup" then .ok .startup
  else if s = "growth" then .ok .growth
  else if s = "enterprise" then .ok .enterprise
  else .error ("unknown tier: " ++ s)

/-- Every tier is read back. -/
theorem parseTier_tierText (tier : Tier) : parseTier (tierText tier) = .ok tier := by
  cases tier with
  | developer => simp [parseTier, tierText]
  | startup => simp [parseTier, tierText]
  | growth => simp [parseTier, tierText]
  | enterprise => simp [parseTier, tierText]

/-! ## `tenant_store` -/

def findByWallet (db : Database) (wallet : String) : Option TenantRow :=
  db.tenants.find? fun tenant => tenant.wallet == wallet

def findById (db : Database) (id : String) : Option TenantRow :=
  db.tenants.find? fun tenant => tenant.id == id

/-- The row that `find_or_create` writes for a wallet. -/
def newTenant (id wallet : String) (now : Nat) : TenantRow where
  id
  wallet
  name := none
  tier := "developer"
  createdAt := now

/-- `ON CONFLICT (wallet) DO NOTHING`; any other conflict is an error. -/
def insertTenant (db : Database) (row : TenantRow) : Option Database :=
  if db.tenants.any fun tenant => tenant.wallet == row.wallet then some db
  else if db.tenants.any fun tenant => tenant.id == row.id then none
  else some { db with tenants := db.tenants ++ [row] }

/-! ## `key_store` -/

def hashKey (raw : String) : String :=
  .ofList (Numerals.hex (Sha256.sha256 raw.toUTF8.data.toList))

def generateKey (bytes : Bytes32) : String := .ofList ("zks_".toList ++ Numerals.hex bytes.bytes)

/-- Different random bytes make different keys. -/
theorem generateKey_injective {bytes bytes' : Bytes32}
    (same : generateKey bytes = generateKey bytes') : bytes = bytes' := by
  have digits : Numerals.hex bytes.bytes = Numerals.hex bytes'.bytes :=
    List.append_cancel_left (String.ofList_injective same)
  exact Bytes32.ext (Numerals.hex_injective
    (bytes.length_eq.trans bytes'.length_eq.symm) digits)

/-- Two texts with one digest. -/
def Collision (raw raw' : String) : Prop :=
  raw ≠ raw' ∧ Sha256.sha256 raw.toUTF8.data.toList = Sha256.sha256 raw'.toUTF8.data.toList

theorem hashKey_eq {raw raw' : String} (same : hashKey raw = hashKey raw') :
    raw = raw' ∨ Collision raw raw' := by
  by_cases equal : raw = raw'
  · exact Or.inl equal
  · have lengths := (Sha256.sha256_length raw.toUTF8.data.toList).trans
      (Sha256.sha256_length raw'.toUTF8.data.toList).symm
    exact Or.inr ⟨equal, Numerals.hex_injective lengths (String.ofList_injective same)⟩

def modelToRecord (m : KeyRow) : Except Refusal ApiKeyRecord := do
  let tier ← (parseTier m.tier).mapError Refusal.database
  pure { keyHash := m.keyHash, tier, owner := m.owner, createdAt := m.createdAt }

def insertKey (db : Database) (row : KeyRow) : Option Database :=
  if db.apiKeys.any fun key => key.keyHash == row.keyHash then none
  else if row.tenantId.all fun id => db.tenants.any fun tenant => tenant.id == id then
    some { db with apiKeys := db.apiKeys ++ [row] }
  else none

def listByTenant (db : Database) (tenantId : String) : Except Refusal (List ApiKeyRecord) :=
  (db.apiKeys.filter fun key => key.tenantId == some tenantId).mapM modelToRecord

def listAll (db : Database) : Except Refusal (List ApiKeyRecord) := db.apiKeys.mapM modelToRecord

def lookupByHash (db : Database) (keyHash : String) : Except Refusal (Option ApiKeyRecord) :=
  match db.apiKeys.find? fun key => key.keyHash == keyHash with
  | some row => (modelToRecord row).map some
  | none => .ok none

/-- The rows that a deletion names, of one tenant or of all. -/
def Named (keyHash : String) (tenantId : Option String) (key : KeyRow) : Bool :=
  key.keyHash == keyHash && tenantId.all fun id => key.tenantId == some id

/-- `remove_by_hash_and_tenant`, and `remove_by_hash` when there is no tenant. -/
def removeKey (db : Database) (keyHash : String) (tenantId : Option String) : Database × Bool :=
  ({ db with apiKeys := db.apiKeys.filter fun key => !Named keyHash tenantId key },
    db.apiKeys.any (Named keyHash tenantId))

/-! ## What a request shows -/

/-- `HeaderValue::to_str` -/
def toStr (value : List UInt8) : Option String :=
  if value.all fun b => (32 ≤ b && b < 127) || b == 9 then
    some (.ofList (value.map fun b => .ofNat b.toNat))
  else none

/-- The text after "Bearer " in the first header of the name. -/
def bearer (headers : HeaderMap) : Option String := do
  let header ← headers.find? fun header => eqIgnoreAsciiCase header.1 "authorization"
  let text ← toStr header.2
  if startsWith text "Bearer " then some (stripPrefix text "Bearer ") else none

/-- `AuthenticatedKey` -/
def authenticateKey (db : Database) (headers : HeaderMap) : Except Refusal ApiKeyRecord := do
  let token ← okOr (bearer headers) Refusal.unauthorized
  require (token ≠ "") Refusal.unauthorized
  let record ← lookupByHash db (hashKey token)
  okOr record Refusal.keyNotFound

structure Claims where
  sub : String
  wallet : String
  exp : Nat
  iat : Nat
  deriving DecidableEq

/-- The encoder and the decoder of session tokens. The decoder knows the time, and reads what
the encoder has written. -/
structure Jwt where
  encode : Claims → String → Except String String
  decode : String → String → Nat → Option Claims
  decode_encode : ∀ claims secret token now claims', encode claims secret = .ok token →
    decode token secret now = some claims' → claims' = claims

def issue (jwt : Jwt) (tenantId wallet secret : String) (ttlSecs now : Nat) :
    Except GatewayError String :=
  (jwt.encode { sub := tenantId, wallet, iat := now, exp := now + ttlSecs } secret).mapError
    fun e => .config ("jwt encode: " ++ e)

structure AuthenticatedTenant where
  tenantId : String
  wallet : String
  deriving DecidableEq

/-- The settings of the gateway that its handlers read. -/
structure Settings extends SignIn.Config where
  adminKey : Option String
  allowOpenKeys : Bool

/-- `AuthenticatedTenant`, from the value of the session cookie. -/
def authenticateTenant (jwt : Jwt) (settings : Settings) (session : Option String) (now : Nat) :
    Except Refusal AuthenticatedTenant := do
  let secret ← okOr settings.jwtSecret (.config "jwt_secret not configured")
  let token ← okOr session Refusal.unauthorized
  let claims ← okOr (jwt.decode token secret now) Refusal.unauthorized
  pure { tenantId := claims.sub, wallet := claims.wallet }

def constantTimeEq (a b : String) : Bool :=
  Sha256.sha256 a.toUTF8.data.toList == Sha256.sha256 b.toUTF8.data.toList

def verifyAdmin (settings : Settings) (headers : HeaderMap) : Except Refusal Unit :=
  match settings.adminKey with
  | some adminKey => do
    let provided ← okOr (bearer headers) Refusal.forbidden
    require (constantTimeEq provided adminKey) Refusal.forbidden
  | none =>
    if settings.allowOpenKeys then .ok ()
    else .error (.config
      "key administration disabled: set GATEWAY_ADMIN_KEY or GATEWAY_ALLOW_OPEN_KEYS=true")

/-- The request bears the administrator's key, or a text with its digest; or there is no such
key, and the settings leave the administration open. -/
def Administers (settings : Settings) (headers : HeaderMap) : Prop :=
  match settings.adminKey with
  | some adminKey => ∃ provided, bearer headers = some provided ∧
      (provided = adminKey ∨ Collision provided adminKey)
  | none => settings.allowOpenKeys = true

theorem verifyAdmin_ok {settings : Settings} {headers : HeaderMap}
    (verified : verifyAdmin settings headers = .ok ()) : Administers settings headers := by
  rw [verifyAdmin] at verified
  rw [Administers]
  cases key : settings.adminKey with
  | some adminKey =>
    simp only [key, bind_eq_ok, okOr_eq_ok, require_eq_ok, constantTimeEq, beq_iff_eq] at verified
    obtain ⟨provided, shown, digest⟩ := verified
    refine ⟨provided, shown, ?_⟩
    by_cases same : provided = adminKey
    · exact Or.inl same
    · exact Or.inr ⟨same, digest⟩
  | none =>
    simp only [key] at verified
    split at verified
    next allowed => exact allowed
    next => cases verified

end ZkSettle.Gateway.Tenancy
