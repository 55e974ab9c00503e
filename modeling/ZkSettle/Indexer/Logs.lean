import ZkSettle.Indexer.Parse
import ZkSettle.Library.Base58

/-!
# Whose events are indexed

A transaction log is a nesting of calls: each program writes between its own invocation and
its end, with the calls it makes in between. The parser looks at single lines, and so takes
the data of every program for the program's own.
-/
namespace ZkSettle.Indexer

open Checks Program

/-! ## Logs -/

/-- The address of a program in Base58. -/
structure ProgramId where
  text : String
  base58 : ∀ c ∈ text.toList, c ∈ Base58.alphabet
  deriving DecidableEq

theorem base58_of_all {text : String}
    (all : text.toList.all (Base58.alphabet.contains ·) = true) :
    ∀ c ∈ text.toList, c ∈ Base58.alphabet := by
  simpa using all

theorem zksettle_base58 : ∀ c ∈ "2HexcvYg6zvQo6kf1ompmvG78GUKMTW292kp1wDdKzFk".toList,
    c ∈ Base58.alphabet :=
  base58_of_all (by decide)

/-- `declare_id!` -/
def zksettleId : ProgramId := ⟨"2HexcvYg6zvQo6kf1ompmvG78GUKMTW292kp1wDdKzFk", zksettle_base58⟩

inductive Outcome where
  | success
  | failed (message : String)

/-- What is written from some moment on: a line of data, or a whole call with what is
written in it, and then the rest. -/
inductive Log where
  | done
  | data (dataB64 : String) (rest : Log)
  | call (program : ProgramId) (body : Log) (outcome : Outcome) (rest : Log)

def dataLine (dataB64 : String) : String := "Program data: " ++ dataB64

def invokeLine (program : ProgramId) (depth : Nat) : String :=
  "Program " ++ program.text ++ " invoke [" ++ toString depth ++ "]"

def endLine (program : ProgramId) : Outcome → String
  | .success => "Program " ++ program.text ++ " success"
  | .failed message => "Program " ++ program.text ++ " failed: " ++ message

/-- The lines of a log, at a depth of the stack. -/
def Log.lines : Log → Nat → List String
  | .done, _ => []
  | .data dataB64 rest, depth => dataLine dataB64 :: rest.lines depth
  | .call program body outcome rest, depth =>
    invokeLine program depth ::
      (body.lines (depth + 1) ++ endLine program outcome :: rest.lines depth)

/-- The data lines, each with the program that was executing. -/
def Log.written : Log → Option ProgramId → List (Option ProgramId × String)
  | .done, _ => []
  | .data dataB64 rest, executing => (executing, dataB64) :: rest.written executing
  | .call program body _ rest, executing => body.written (some program) ++ rest.written executing

/-! ## Lines -/

/-- An address followed by a blank does not start like data. -/
theorem data_not_prefix (program : ProgramId) (tail : List Char) :
    ¬ "data: ".toList <+: program.text.toList ++ ' ' :: tail := by
  intro start
  have shorter : "data:".toList <+: program.text.toList ++ ' ' :: tail :=
    (by decide : "data:".toList <+: "data: ".toList).trans start
  by_cases long : "data:".toList.length ≤ program.text.toList.length
  · -- the colon would be in the address
    have inside : "data:".toList <+: program.text.toList :=
      List.prefix_of_prefix_length_le shorter (List.prefix_append _ _) long
    have colon : ':' ∈ program.text.toList := inside.subset (by decide)
    exact absurd (program.base58 ':' colon) (by decide)
  · -- the blank would be before the colon
    have whole : program.text.toList ++ [' '] <+: program.text.toList ++ ' ' :: tail :=
      List.prefix_append_right_inj _ |>.mpr ⟨tail, rfl⟩
    have inside : program.text.toList ++ [' '] <+: "data:".toList :=
      List.prefix_of_prefix_length_le whole shorter (by simp at long ⊢; omega)
    have blank : ' ' ∈ "data:".toList := inside.subset (by simp)
    exact absurd blank (by decide)

theorem stripPrefix_of_not_prefix {line start : String}
    (other : ¬ start.toList <+: line.toList) : stripPrefix line start = none := by
  rw [stripPrefix, if_neg (by simpa using other)]

theorem stripPrefix_dataLine (dataB64 : String) :
    stripPrefix (dataLine dataB64) "Program data: " = some dataB64 := by
  have chars : (dataLine dataB64).toList = "Program data: ".toList ++ dataB64.toList :=
    String.toList_append
  rw [stripPrefix, chars, if_pos (by simp), List.drop_left, String.ofList_toList]

/-- A line about a program that is not its data. -/
theorem stripPrefix_program {line : String} (program : ProgramId) (tail : List Char)
    (chars : line.toList = "Program ".toList ++ (program.text.toList ++ ' ' :: tail)) :
    stripPrefix line "Program data: " = none := by
  apply stripPrefix_of_not_prefix
  rw [chars]
  intro start
  have split : "Program data: ".toList = "Program ".toList ++ "data: ".toList := by decide
  rw [split, List.prefix_append_right_inj] at start
  exact data_not_prefix program tail start

theorem stripPrefix_invokeLine (program : ProgramId) (depth : Nat) :
    stripPrefix (invokeLine program depth) "Program data: " = none := by
  apply stripPrefix_program program ("invoke [".toList ++ (toString depth).toList ++ "]".toList)
  simp [invokeLine]

theorem stripPrefix_endLine (program : ProgramId) (outcome : Outcome) :
    stripPrefix (endLine program outcome) "Program data: " = none := by
  cases outcome with
  | success =>
    apply stripPrefix_program program "success".toList
    simp [endLine]
  | failed message =>
    apply stripPrefix_program program ("failed: ".toList ++ message.toList)
    simp [endLine]

/-! ## What the parser sees -/

section Parser

variable (standard : Base64.Engine)

/-- The events on some data lines, up to the first broken one. -/
def parseAll : List String → Except IndexerError (List ProofSettled)
  | [] => .ok []
  | dataB64 :: rest => do
    let found ← parseData standard dataB64
    let events ← parseAll rest
    pure (found.toList ++ events)

/-- The parser reads the data lines of all programs alike. -/
theorem parseLines_append_lines (log : Log) (depth : Nat) (executing : Option ProgramId)
    (later : List String) (texts : List String)
    (continued : parseLines standard later = parseAll standard texts) :
    parseLines standard (log.lines depth ++ later) =
      parseAll standard ((log.written executing).map Prod.snd ++ texts) := by
  induction log generalizing depth executing later texts with
  | done => exact continued
  | data dataB64 rest ih =>
    rw [Log.lines, Log.written, List.cons_append, parseLines, stripPrefix_dataLine]
    simp only [List.map_cons, List.cons_append, parseAll, ih depth executing later texts continued]
  | call program body outcome rest ihBody ihRest =>
    -- the lines after the call come first, and those of the call are put before them
    have afterBody := ihRest depth executing later texts continued
    have ended : parseLines standard (endLine program outcome :: (rest.lines depth ++ later)) =
        parseAll standard ((rest.written executing).map Prod.snd ++ texts) := by
      rw [parseLines, stripPrefix_endLine, afterBody]
    rw [Log.lines, Log.written, List.cons_append, parseLines, stripPrefix_invokeLine,
      List.append_assoc, List.cons_append, ihBody (depth + 1) (some program) _ _ ended,
      List.map_append, List.append_assoc]

/-- A data line that is an event or nothing, not broken. -/
def Readable (dataB64 : String) : Prop := ∃ found, parseData standard dataB64 = .ok found

/-- The event on a data line, if there is one. -/
def lineEvent (dataB64 : String) : Option ProofSettled :=
  (parseData standard dataB64).toOption.bind id

theorem parseAll_of_readable {texts : List String}
    (readable : ∀ text ∈ texts, Readable standard text) :
    parseAll standard texts = .ok (texts.filterMap (lineEvent standard)) := by
  induction texts with
  | nil => rfl
  | cons text rest ih =>
    obtain ⟨found, read⟩ := readable text List.mem_cons_self
    have later := ih fun other member => readable other (List.mem_cons_of_mem _ member)
    have event : lineEvent standard text = found := by
      rw [lineEvent, read]
      rfl
    rw [parseAll, read, later, List.filterMap_cons, event]
    cases found with
    | none => rfl
    | some event => rfl

theorem parseAll_of_broken {texts : List String} {text : String} (member : text ∈ texts)
    (broken : ¬ Readable standard text) : (parseAll standard texts).toOption = none := by
  induction texts with
  | nil => cases member
  | cons first rest ih =>
    rw [parseAll]
    cases read : parseData standard first with
    | error failure => rfl
    | ok found =>
      -- the first line is readable, so the broken one comes later
      have later : text ∈ rest := by
        rcases List.mem_cons.mp member with rfl | later
        · exact absurd ⟨found, read⟩ broken
        · exact later
      have stopped := ih later
      cases outcome : parseAll standard rest with
      | error failure => rfl
      | ok events =>
        rw [outcome] at stopped
        cases stopped

/-- The events that the webhook gets for a transaction. -/
def returned (log : Log) : List ProofSettled :=
  (extractProofSettled standard (log.lines 1)).toOption.getD []

theorem returned_eq (log : Log) : returned standard log =
    (parseAll standard ((log.written none).map Prod.snd)).toOption.getD [] := by
  have parsed := parseLines_append_lines standard log 1 none [] [] rfl
  rw [List.append_nil, List.append_nil] at parsed
  rw [returned, extractProofSettled, ← parsed]
  by_cases empty : log.lines 1 = []
  · -- a transaction without logs is an error, and has no events either
    rw [empty]
    rfl
  · rw [Checks.require, if_pos empty]
    rfl

end Parser

/-! ## The program's own events -/

section Own

variable (standard : Base64.Engine)

/-- The events that the program wrote while it was executing. -/
def own (log : Log) : List ProofSettled :=
  ((log.written none).filter fun line => line.1 = some zksettleId).filterMap
    fun line => lineEvent standard line.2

/-- What another program wrote that reads as an event. -/
def foreign (log : Log) : List ProofSettled :=
  ((log.written none).filter fun line => ¬ line.1 = some zksettleId).filterMap
    fun line => lineEvent standard line.2

theorem length_filterMap_filter {α β : Type} (f : α → Option β) (p : α → Bool) (xs : List α) :
    (xs.filterMap f).length =
      ((xs.filter p).filterMap f).length + ((xs.filter fun x => !p x).filterMap f).length := by
  induction xs with
  | nil => rfl
  | cons x rest ih =>
    cases value : f x with
    | none => cases chosen : p x <;> simp [chosen, value, ih]
    | some y =>
      cases chosen : p x with
      | true =>
        simp [chosen, value, ih]
        omega
      | false =>
        simp [chosen, value, ih]
        omega

theorem returned_of_readable {log : Log}
    (readable : ∀ line ∈ log.written none, Readable standard line.2) :
    returned standard log =
      (log.written none).filterMap fun line => lineEvent standard line.2 := by
  have texts : ∀ text ∈ (log.written none).map Prod.snd, Readable standard text := by
    intro text member
    obtain ⟨line, written, rfl⟩ := List.mem_map.mp member
    exact readable line written
  rw [returned_eq, parseAll_of_readable standard texts, List.filterMap_map]
  rfl

theorem returned_of_broken {log : Log} {line : Option ProgramId × String}
    (written : line ∈ log.written none) (broken : ¬ Readable standard line.2) :
    returned standard log = [] := by
  rw [returned_eq, parseAll_of_broken standard (List.mem_map_of_mem written) broken]
  rfl

/-- The webhook gets the program's own events and no others exactly when all data lines of
the transaction are readable and none of another program is an event, or when one is broken
and the program wrote no event. -/
theorem returned_eq_own_iff (log : Log) : returned standard log = own standard log ↔
    ((∀ line ∈ log.written none, Readable standard line.2) ∧ foreign standard log = []) ∨
      ((∃ line ∈ log.written none, ¬ Readable standard line.2) ∧ own standard log = []) := by
  -- one broken line empties the result; otherwise nothing of the program's own is missing
  by_cases readable : ∀ line ∈ log.written none, Readable standard line.2
  · have all := returned_of_readable standard readable
    have sublist : (own standard log).Sublist (returned standard log) := by
      rw [all]
      exact List.filter_sublist.filterMap _
    -- so the two lists are equal when they have the same length
    have lengths : (returned standard log).length =
        (own standard log).length + (foreign standard log).length := by
      rw [all, length_filterMap_filter _ fun line => line.1 = some zksettleId, own, foreign]
      simp
    have none_broken : ¬ ∃ line ∈ log.written none, ¬ Readable standard line.2 := by
      rintro ⟨line, written, broken⟩
      exact broken (readable line written)
    constructor
    · intro same
      rw [same] at lengths
      exact Or.inl ⟨readable, List.length_eq_zero_iff.mp (by omega)⟩
    · rintro (⟨-, alone⟩ | ⟨broken, -⟩)
      · rw [alone, List.length_nil, Nat.add_zero] at lengths
        exact (sublist.eq_of_length lengths.symm).symm
      · exact absurd broken none_broken
  · have broken : ∃ line ∈ log.written none, ¬ Readable standard line.2 := by
      simpa only [not_forall, exists_prop] using readable
    obtain ⟨line, written, unreadable⟩ := broken
    rw [returned_of_broken standard written unreadable]
    constructor
    · intro same
      exact Or.inr ⟨⟨line, written, unreadable⟩, same.symm⟩
    · rintro (⟨all, -⟩ | ⟨-, nothing⟩)
      · exact absurd (all line written) unreadable
      · exact nothing.symm

end Own

/-! ## A forged event -/

section Forged

theorem other_base58 : ∀ c ∈ "11111111111111111111111111111111".toList, c ∈ Base58.alphabet :=
  base58_of_all (by decide)

def otherId : ProgramId := ⟨"11111111111111111111111111111111", other_base58⟩

def forgedEvent : ProofSettled where
  version := 1
  issuer := .ofNat 9
  nullifierHash := .ofNat 8
  merkleRoot := .ofNat 7
  sanctionsRoot := .ofNat 11
  jurisdictionRoot := .ofNat 12
  mint := .ofNat 5
  recipient := .ofNat 4
  amount := 2500000
  epoch := 7
  timestamp := 1700000001
  slot := 1234
  payer := .ofNat 6

/-- One call of another program, which logs the bytes of an event. -/
def forgedLog (standard : Base64.Engine) : Log :=
  .call otherId (.data (eventText standard forgedEvent) .done) .success .done

/-- An event that the program never wrote is returned. -/
theorem not_returned_eq_own : ¬ ∀ (standard : Base64.Engine) (log : Log),
    returned standard log = own standard log := by
  intro always
  have same := always Base64.standard (forgedLog Base64.standard)
  have written : (forgedLog Base64.standard).written none =
      [(some otherId, eventText Base64.standard forgedEvent)] := rfl
  have parsed := parseData_eventText Base64.standard forgedEvent
  have given : returned Base64.standard (forgedLog Base64.standard) = [forgedEvent] := by
    rw [returned_eq, written, List.map_singleton, parseAll, parsed]
    rfl
  have nothing : own Base64.standard (forgedLog Base64.standard) = [] := by
    have other : ¬ some otherId = some zksettleId := by decide
    rw [own, written, List.filter_cons_of_neg (by simpa using other)]
    rfl
  rw [given, nothing] at same
  cases same

end Forged

end ZkSettle.Indexer
