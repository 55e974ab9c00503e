import ZkSettle.Gateway.Admission
import ZkSettle.Gateway.Custody

/-!
# The gateway and its keys

The whole gateway: its logins, tenants and keys, and the requests that it forwards for all the
keys at once. A request is looked up in the table of keys, then reads the clock, and goes on
from there as a call of its key. The rows of usage refer to the table of keys: they go when
their key is deleted, and none is written for a key that is not there.
-/
namespace ZkSettle.Gateway.Serving

open Checks Tenancy

/-! ## The rows of usage -/

def noRows : Rows where
  usage := none
  daily _ := none

/-- The key is in the table. -/
def known (db : Database) (keyHash : String) : Bool :=
  db.apiKeys.any fun key => key.keyHash == keyHash

/-- `ON DELETE CASCADE` -/
def cascade (db : Database) (rows : String → Rows) (keyHash : String) : Rows :=
  if known db keyHash then rows keyHash else noRows

/-- The answers that the foreign keys allow: nothing is inserted for a key that is not there. -/
def answerable (known : Bool) : Event → Bool
  | .tryReserve fault => known || fault.isSome
  | .recordDaily fault => known || fault == some .insert
  | _ => true

/-! ## The requests -/

/-- A request whose key was found, before the handler begins. -/
structure Arrival where
  record : ApiKeyRecord
  request : Request

/-- A call, for the key that its request has shown. -/
structure Forward where
  record : ApiKeyRecord
  call : Call

structure System where
  tenancy : Tenancy.System
  rows : String → Rows
  clock : Nat
  arrivals : List Arrival
  forwards : List Forward

def System.start (clock : Nat) : System where
  tenancy := .start clock
  rows _ := noRows
  clock := clock
  arrivals := []
  forwards := []

inductive Action where
  /-- a step of the logins, the tenants or the keys -/
  | tenancy (action : Tenancy.Action)
  /-- the extraction of the key -/
  | arrive (request : Request)
  /-- the handler begins, at a time -/
  | enter (id now : Nat)
  /-- a call goes on with an answer -/
  | resume (id : Nat) (event : Event)

def step (standard : Base64.Engine) (ed : Ed25519) (jwt : Jwt) (settings : Settings)
    (config : Config) (s : System) : Action → Except Unit System
  | .tenancy action => do
    let tenancy ← Tenancy.step standard ed jwt settings s.tenancy action
    .ok { s with tenancy, rows := cascade tenancy.db s.rows }
  | .arrive request =>
    match authenticateKey s.tenancy.db request.headers with
    | .error _ => .error ()
    | .ok record => .ok { s with arrivals := s.arrivals ++ [⟨record, request⟩] }
  | .enter id now =>
    match s.arrivals[id]? with
    | none => .error ()
    | some arrival =>
      if s.clock ≤ now then
        .ok { s with
          clock := now
          arrivals := s.arrivals.eraseIdx id
          forwards := s.forwards ++ [⟨arrival.record, .begin now arrival.request⟩] }
      else .error ()
  | .resume id event =>
    match s.forwards[id]? with
    | none => .error ()
    | some { record, call } => do
      require (answerable (known s.tenancy.db record.keyHash) event = true) ()
      let (rows, call) ← call.advance record.tier config (s.rows record.keyHash) event
      .ok { s with
        rows := Function.update s.rows record.keyHash rows
        forwards := s.forwards.set id ⟨record, call⟩ }

def run (standard : Base64.Engine) (ed : Ed25519) (jwt : Jwt) (settings : Settings)
    (config : Config) (s : System) (actions : List Action) : System :=
  Transactional.run (step standard ed jwt settings config) s actions

/-- The record is that of a request that was let in. -/
def Serves (s : System) (record : ApiKeyRecord) : Prop :=
  (∃ arrival ∈ s.arrivals, arrival.record = record) ∨
    ∃ forward ∈ s.forwards, forward.record = record

/-- A new key is not one that is in use already. -/
def Fresh (s : System) : Action → Prop
  | .tenancy (.resume id _) => ∀ call rawKey tier row, s.tenancy.calls[id]? = some call →
      call.stage = .inserting rawKey tier row → ∀ record, Serves s record →
        record.keyHash ≠ row.keyHash
  | _ => True

/-! ## One step -/

/-- What one step does. -/
inductive Stepped (standard : Base64.Engine) (ed : Ed25519) (jwt : Jwt) (settings : Settings)
    (config : Config) (s : System) : Action → System → Prop
  | tenancy {action : Tenancy.Action} {tenancy : Tenancy.System}
      (accepted : Tenancy.step standard ed jwt settings s.tenancy action = .ok tenancy) :
      Stepped standard ed jwt settings config s (.tenancy action)
        { s with tenancy, rows := cascade tenancy.db s.rows }
  | arrived {request : Request} {record : ApiKeyRecord}
      (authenticated : authenticateKey s.tenancy.db request.headers = .ok record) :
      Stepped standard ed jwt settings config s (.arrive request)
        { s with arrivals := s.arrivals ++ [⟨record, request⟩] }
  | entered {id now : Nat} {arrival : Arrival} (found : s.arrivals[id]? = some arrival)
      (later : s.clock ≤ now) :
      Stepped standard ed jwt settings config s (.enter id now) { s with
        clock := now
        arrivals := s.arrivals.eraseIdx id
        forwards := s.forwards ++ [⟨arrival.record, .begin now arrival.request⟩] }
  | resumed {id : Nat} {event : Event} {forward : Forward} {rows : Rows} {call : Call}
      (found : s.forwards[id]? = some forward)
      (allowed : answerable (known s.tenancy.db forward.record.keyHash) event = true)
      (advanced : forward.call.advance forward.record.tier config
        (s.rows forward.record.keyHash) event = .ok (rows, call)) :
      Stepped standard ed jwt settings config s (.resume id event) { s with
        rows := Function.update s.rows forward.record.keyHash rows
        forwards := s.forwards.set id ⟨forward.record, call⟩ }

variable {standard : Base64.Engine} {ed : Ed25519} {jwt : Jwt} {settings : Settings}
  {config : Config}

theorem step_stepped {s next : System} {action : Action}
    (accepted : step standard ed jwt settings config s action = .ok next) :
    Stepped standard ed jwt settings config s action next := by
  cases action with
  | tenancy action =>
    obtain ⟨tenancy, stepped, same⟩ := bind_eq_ok.mp accepted
    cases same
    exact .tenancy stepped
  | arrive request =>
    rw [step] at accepted
    split at accepted
    next => cases accepted
    next record authenticated =>
      cases accepted
      exact .arrived authenticated
  | enter id now =>
    rw [step] at accepted
    split at accepted
    next => cases accepted
    next arrival found =>
      split at accepted
      next later =>
        cases accepted
        exact .entered found later
      next => cases accepted
  | resume id event =>
    rw [step] at accepted
    split at accepted
    next => cases accepted
    next record call found =>
      simp only [bind_eq_ok, require_eq_ok] at accepted
      obtain ⟨-, allowed, ⟨rows, call'⟩, advanced, same⟩ := accepted
      cases same
      exact .resumed found allowed advanced

/-! ## Requests and their keys -/

theorem known_iff {db : Database} {keyHash : String} :
    known db keyHash = true ↔ ∃ key ∈ db.apiKeys, key.keyHash = keyHash := by
  simp [known]

/-- Whoever was let in stays so. -/
theorem Serves.step {s next : System} {action : Action} {record : ApiKeyRecord}
    (serves : Serves s record)
    (accepted : step standard ed jwt settings config s action = .ok next) :
    Serves next record := by
  cases step_stepped accepted with
  | tenancy => exact serves
  | arrived =>
    refine serves.imp_left fun there => ?_
    obtain ⟨arrival, member, same⟩ := there
    exact ⟨arrival, List.mem_append_left _ member, same⟩
  | @entered id now arrival found later =>
    rcases serves with ⟨other, member, rfl⟩ | ⟨forward, member, same⟩
    · obtain ⟨place, there⟩ := List.mem_iff_getElem?.mp member
      by_cases here : place = id
      · -- the request that enters becomes a call
        subst here
        obtain rfl := Option.some.inj (there.symm.trans found)
        exact Or.inr ⟨_, List.mem_append_right _ (List.mem_singleton_self _), rfl⟩
      · exact Or.inl ⟨other, List.mem_eraseIdx_iff_getElem?.mpr ⟨place, here, there⟩, rfl⟩
    · exact Or.inr ⟨forward, List.mem_append_left _ member, same⟩
  | @resumed id event forward rows call found =>
    refine serves.imp_right fun there => ?_
    obtain ⟨other, member, same⟩ := there
    rcases Slots.mem_set_or_eq found member ⟨forward.record, call⟩ with rfl | stays
    · exact ⟨_, Slots.mem_set_self found _, same⟩
    · exact ⟨other, stays, same⟩

/-- Whoever is let in has just shown a key, or was let in before. -/
theorem serves_before {s next : System} {action : Action} {record : ApiKeyRecord}
    (accepted : step standard ed jwt settings config s action = .ok next)
    (serves : Serves next record) :
    Serves s record ∨ ∃ request, action = .arrive request ∧
      authenticateKey s.tenancy.db request.headers = .ok record := by
  cases step_stepped accepted with
  | tenancy => exact Or.inl serves
  | @arrived request record' authenticated =>
    rcases serves with ⟨arrival, member, rfl⟩ | there
    · rcases List.mem_append.mp member with earlier | new
      · exact Or.inl (Or.inl ⟨arrival, earlier, rfl⟩)
      · obtain rfl := List.mem_singleton.mp new
        exact Or.inr ⟨request, rfl, authenticated⟩
    · exact Or.inl (Or.inr there)
  | entered found =>
    rcases serves with ⟨arrival, member, same⟩ | ⟨forward, member, rfl⟩
    · exact Or.inl (Or.inl ⟨arrival, List.mem_of_mem_eraseIdx member, same⟩)
    · rcases List.mem_append.mp member with earlier | new
      · exact Or.inl (Or.inr ⟨forward, earlier, rfl⟩)
      · obtain rfl := List.mem_singleton.mp new
        exact Or.inl (Or.inl ⟨_, List.mem_of_getElem? found, rfl⟩)
  | resumed found =>
    rcases serves with there | ⟨forward, member, rfl⟩
    · exact Or.inl (Or.inl there)
    · rcases List.mem_or_eq_of_mem_set member with earlier | rfl
      · exact Or.inl (Or.inr ⟨forward, earlier, rfl⟩)
      · exact Or.inl (Or.inr ⟨_, List.mem_of_getElem? found, rfl⟩)

/-- A key of the table is an earlier one, or a request has just inserted it. -/
theorem key_before {s next : Tenancy.System} {action : Tenancy.Action}
    (accepted : Tenancy.step standard ed jwt settings s action = .ok next) {key : KeyRow}
    (member : key ∈ next.db.apiKeys) :
    key ∈ s.db.apiKeys ∨ ∃ id answers call rawKey tier, action = .resume id answers ∧
      s.calls[id]? = some call ∧ call.stage = .inserting rawKey tier key := by
  cases Tenancy.step_stepped accepted with
  | signIn => exact Or.inl member
  | upsert id answers login db before after found there upserted =>
    rw [upserted.grows.2] at member
    exact Or.inl member
  | finish => exact Or.inl member
  | request => exact Or.inl member
  | resume id answers call call' db found advanced =>
    refine ((KeyCall.advance_effect advanced).rows.1 key member).imp_right fun inserted => ?_
    obtain ⟨rawKey, tier, inserting, -⟩ := inserted
    exact ⟨id, answers, call, rawKey, tier, rfl, found, inserting⟩

/-- A key that a step puts into the table is not in use. -/
theorem Fresh.unused {s : System} {action : Tenancy.Action} {tenancy : Tenancy.System}
    (fresh : Fresh s (.tenancy action))
    (accepted : Tenancy.step standard ed jwt settings s.tenancy action = .ok tenancy)
    {key : KeyRow} (member : key ∈ tenancy.db.apiKeys) :
    key ∈ s.tenancy.db.apiKeys ∨ ∀ record, Serves s record → record.keyHash ≠ key.keyHash := by
  refine (key_before accepted member).imp_right fun inserted => ?_
  obtain ⟨id, answers, call, rawKey, tier, rfl, found, inserting⟩ := inserted
  exact fresh call rawKey tier key found inserting

/-- Every request bears the record of its key, the calls of a deleted key included. -/
structure Coherent (jwt : Jwt) (settings : Settings) (s : System) : Prop where
  custody : Custody jwt settings s.tenancy
  /-- a key that is in use and in the table has the record of its row -/
  issued : ∀ record, Serves s record → ∀ key ∈ s.tenancy.db.apiKeys,
    key.keyHash = record.keyHash → modelToRecord key = .ok record
  agree : ∀ record record', Serves s record → Serves s record' →
    record.keyHash = record'.keyHash → record = record'
  cascaded : ∀ keyHash, known s.tenancy.db keyHash = false → s.rows keyHash = noRows
  times : ∀ forward ∈ s.forwards, forward.call.now ≤ s.clock

theorem coherent_start (clock : Nat) : Coherent jwt settings (.start clock) where
  custody := custody_start clock
  issued := by rintro record (⟨arrival, ⟨⟩, -⟩ | ⟨forward, ⟨⟩, -⟩)
  agree := by rintro record record' (⟨arrival, ⟨⟩, -⟩ | ⟨forward, ⟨⟩, -⟩)
  cascaded _ _ := rfl
  times := by rintro forward ⟨⟩

/-- The record of a key that was shown is that of the one row with its hash. -/
theorem authenticated_issued {s : Tenancy.System} (custody : Custody jwt settings s)
    {headers : HeaderMap} {record : ApiKeyRecord}
    (authenticated : authenticateKey s.db headers = .ok record) :
    known s.db record.keyHash = true ∧
      ∀ key ∈ s.db.apiKeys, key.keyHash = record.keyHash → modelToRecord key = .ok record := by
  obtain ⟨token, key, -, member, -, read⟩ := authenticateKey_ok authenticated
  have same := modelToRecord_keyHash read
  refine ⟨known_iff.mpr ⟨key, member, same.symm⟩, fun other there hash => ?_⟩
  obtain rfl := List.inj_on_of_nodup_map custody.hashes there member (hash.trans same)
  exact read

theorem advanced_now {tier : Tier} {rows rows' : Rows} {call call' : Call} {event : Event}
    (advanced : Advanced tier rows call event rows' call') : call'.now = call.now := by
  cases advanced with
  | @gaveBack failed result before delivers ends => cases failed <;> rfl
  | _ => rfl

/-- The call of a key that is not in the table writes nothing, and takes no place. -/
theorem advanced_absent {tier : Tier} {rows : Rows} {call call' : Call} {event : Event}
    (advanced : Advanced tier noRows call event rows call')
    (allowed : answerable false event = true) :
    rows = noRows ∧ call'.period = call.period ∧
      ∀ period, (call'.claims period).toNat ≤ (call.claims period).toNat := by
  cases advanced with
  | reserved entered taken => cases allowed
  | refused entered refusal =>
    refine ⟨rfl, rfl, fun period => ?_⟩
    simp [Call.claims, Stage.inFlight, Stage.delivered]
  | moved before => exact ⟨rfl, rfl, Call.claims_le before rfl⟩
  | lost before => exact ⟨rfl, rfl, Call.claims_le before rfl⟩
  | recorded answered paid => cases allowed
  | @unrecorded response fault answered paid =>
    cases fault with
    | insert => exact ⟨rfl, rfl, Call.claims_le (Stage.inFlight_answered answered) rfl⟩
    | prune => cases allowed
  | @gaveBack failed result before delivers ends =>
    -- there is no count that a release could lower
    cases failed with
    | true => exact ⟨rfl, rfl, Call.claims_le before rfl⟩
    | false => exact ⟨rfl, rfl, Call.claims_le before rfl⟩

theorem Coherent.issued_step {s next : System} {action : Action}
    (coherent : Coherent jwt settings s) (fresh : Fresh s action)
    (accepted : step standard ed jwt settings config s action = .ok next) :
    ∀ record, Serves next record → ∀ key ∈ next.tenancy.db.apiKeys,
      key.keyHash = record.keyHash → modelToRecord key = .ok record := by
  intro record serves key member same
  rcases serves_before accepted serves with earlier | ⟨request, rfl, authenticated⟩
  · cases step_stepped accepted with
    | tenancy stepped =>
      rcases fresh.unused stepped member with before | unused
      · exact coherent.issued record earlier key before same
      · exact absurd same.symm (unused record earlier)
    | arrived => exact coherent.issued record earlier key member same
    | entered => exact coherent.issued record earlier key member same
    | resumed => exact coherent.issued record earlier key member same
  · cases step_stepped accepted with
    | arrived => exact (authenticated_issued coherent.custody authenticated).2 key member same

theorem Coherent.agree_step {s next : System} {action : Action}
    (coherent : Coherent jwt settings s)
    (accepted : step standard ed jwt settings config s action = .ok next) :
    ∀ record record', Serves next record → Serves next record' →
      record.keyHash = record'.keyHash → record = record' := by
  -- a request that was let in before has the record that the key has now
  have shown : ∀ (request : Request) (record record' : ApiKeyRecord), Serves s record →
      authenticateKey s.tenancy.db request.headers = .ok record' →
        record.keyHash = record'.keyHash → record = record' := by
    intro request record record' earlier authenticated same
    obtain ⟨there, reads⟩ := authenticated_issued coherent.custody authenticated
    obtain ⟨key, member, hash⟩ := known_iff.mp there
    have read := coherent.issued record earlier key member (hash.trans same.symm)
    exact Except.ok.inj (read.symm.trans (reads key member hash))
  intro record record' serves serves' same
  rcases serves_before accepted serves with earlier | ⟨request, rfl, authenticated⟩
  · rcases serves_before accepted serves' with earlier' | ⟨request, rfl, authenticated⟩
    · exact coherent.agree record record' earlier earlier' same
    · exact shown request record record' earlier authenticated same
  · rcases serves_before accepted serves' with earlier' | ⟨request', again, authenticated'⟩
    · exact (shown request record' record earlier' authenticated same.symm).symm
    · cases again
      exact Except.ok.inj (authenticated.symm.trans authenticated')

theorem step_coherent {s next : System} {action : Action}
    (coherent : Coherent jwt settings s) (fresh : Fresh s action)
    (accepted : step standard ed jwt settings config s action = .ok next) :
    Coherent jwt settings next := by
  have issued := coherent.issued_step fresh accepted
  have agree := coherent.agree_step accepted
  cases step_stepped accepted with
  | tenancy stepped =>
    refine ⟨step_custody coherent.custody stepped, issued, agree, ?_, coherent.times⟩
    intro keyHash absent
    simp [cascade, absent]
  | arrived => exact ⟨coherent.custody, issued, agree, coherent.cascaded, coherent.times⟩
  | entered found later =>
    refine ⟨coherent.custody, issued, agree, coherent.cascaded, fun forward member => ?_⟩
    rcases List.mem_append.mp member with earlier | new
    · exact (coherent.times forward earlier).trans later
    · obtain rfl := List.mem_singleton.mp new
      exact le_rfl
  | @resumed id event forward rows call found allowed advanced =>
    have advances := advance_advanced advanced
    refine ⟨coherent.custody, issued, agree, ?_, ?_⟩
    · intro keyHash absent
      by_cases own : keyHash = forward.record.keyHash
      · subst own
        have before := coherent.cascaded _ absent
        simp only [Function.update_self]
        rw [before] at advances
        rw [absent] at allowed
        exact (advanced_absent advances allowed).1
      · simp only [Function.update_of_ne own]
        exact coherent.cascaded keyHash absent
    · intro other member
      rcases List.mem_or_eq_of_mem_set member with earlier | rfl
      · exact coherent.times other earlier
      · exact (advanced_now advances).trans_le
          (coherent.times forward (List.mem_of_getElem? found))

theorem coherent_run {clock : Nat} {actions : List Action}
    (fresh : Transactional.Meets (step standard ed jwt settings config) Fresh (.start clock)
      actions) :
    Coherent jwt settings (run standard ed jwt settings config (.start clock) actions) :=
  Transactional.run_invariant_of_meets
    (fun _ _ _ coherent fresh accepted => step_coherent coherent fresh accepted)
    _ _ fresh (coherent_start clock)

end ZkSettle.Gateway.Serving
