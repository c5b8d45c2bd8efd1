import ChatService.Database.Program

/-!
# A database server

What a server does with commands: collections of records, unique indexes, and one transaction at a
time. A filter matches a record whose fields have exactly the wanted values. An aborted transaction
leaves the records as they were when it began.
-/

namespace ChatService.Database.Server

/-- The records of each collection, in the order in which they were inserted. -/
abbrev Records : Type := Keyed String (List Record)

structure State where
  records : Records
  /-- The keys of the unique indexes of each collection. -/
  unique : Keyed String (List (List String))
  /-- The open transaction, with the records as they were before it. -/
  transaction : Option (Session × Records)
deriving Repr

def State.empty : State := ⟨[], [], none⟩

/-! ## Records -/

/-- The records of a collection. -/
def recordsOf (collection : String) (records : Records) : List Record :=
  (Keyed.get? collection records).getD []

/-- Whether a value meets a condition. -/
def meets (v : Value) : Condition → Bool
  | .equals w => decide (v = w)
  | .after ms =>
    match v with
    | .time n => decide (ms < n)
    | _ => false

/-- Whether a record has all the wanted values. -/
def isMatch (filter : Filter) (record : Record) : Bool :=
  filter.all fun (field, condition) =>
    match Keyed.get? field record with
    | some v => meets v condition
    | none => false

/-- The code for a change that a field's type or range does not allow. -/
def badValue : Int := 2

def commandFailure (code : Int) : Failure := { cause := .command code }

/-- Adds to the number that a field has. -/
def increment (record : Record) (change : String × Int) : Except Failure Record :=
  match Keyed.get? change.1 record with
  | some (.long n) =>
    match Word.addInt64? n change.2 with
    | some sum => .ok (Keyed.put change.1 (.long sum) record)
    | none => .error (commandFailure badValue)
  | some _ => .error (commandFailure badValue)
  | none => .ok (Keyed.put change.1 (.long change.2) record)

/-- A record with its changes. -/
def applyUpdate (u : Update) (record : Record) : Except Failure Record := do
  let record ← u.increments.foldlM increment record
  return u.values.foldl (fun record (field, v) => Keyed.put field v record) record

/-- Whether one record stands before another or with it; the first field that sorts them decides. -/
def inOrder : List SortKey → Record → Record → Bool
  | [], _, _ => true
  | key :: keys, a, b =>
    let v := (Keyed.get? key.field a).getD .null
    let w := (Keyed.get? key.field b).getD .null
    if v.le w && w.le v then inOrder keys a b else if key.ascending then v.le w else w.le v

/-- Two records have the same values in all fields of a key. -/
def sameKey (key : List String) (a b : Record) : Bool :=
  key.all fun field => decide (Keyed.get? field a = Keyed.get? field b)

/-- Changes the first record that matches; the others stay. -/
def changeFirst (p : Record → Bool) (f : Record → Except Failure Record) :
    List Record → Except Failure (List Record)
  | [] => .ok []
  | record :: rest =>
    if p record then do return (← f record) :: rest
    else do return record :: (← changeFirst p f rest)

/-! ## Commands -/

/-- The largest skip that is accepted. -/
def maxSkip : Nat := Word.maxInt64.toNat

/-- The records that a listing leaves. -/
def listing (sort : List SortKey) (skip limit : Nat) (records : List Record) : List Record :=
  let rest := (records.mergeSort (inOrder sort)).drop skip
  if limit = 0 then rest else rest.take limit

/-- Inserts a record unless one of its unique values is taken. -/
def insert (s : State) (collection : String) (record : Record) : State × Except Failure Unit :=
  let records := recordsOf collection s.records
  let keys := ["_id"] :: (Keyed.get? collection s.unique).getD []
  if records.any fun other => keys.any fun key => sameKey key other record then
    (s, .error { cause := .write duplicateKey })
  else ({ s with records := Keyed.put collection (records ++ [record]) s.records }, .ok ())

/-- Changes the first record that matches, and answers it as it was. -/
def update (s : State) (collection : String) (filter : Filter) (u : Update) :
    State × Except Failure (Option Record) :=
  let records := recordsOf collection s.records
  match changeFirst (isMatch filter) (applyUpdate u) records with
  | .ok changed =>
    ({ s with records := Keyed.put collection changed s.records },
      .ok (records.find? (isMatch filter)))
  | .error f => (s, .error f)

/-- Carries out a command outside of transactions; ending one does nothing. -/
def execute (s : State) : {α : Type} → Command α → State × Except Failure α
  | _, .createIndex collection key unique _ =>
    if unique then
      let keys := (Keyed.get? collection s.unique).getD []
      ({ s with unique := Keyed.put collection (keys ++ [key.map (·.field)]) s.unique }, .ok ())
    else (s, .ok ())
  | _, .insert collection record => insert s collection record
  | _, .findOne collection filter =>
    (s, .ok ((recordsOf collection s.records).find? (isMatch filter)))
  | _, .find collection filter sort skip limit =>
    if maxSkip < skip then (s, .error (commandFailure badValue))
    else
      (s, .ok (listing sort skip limit ((recordsOf collection s.records).filter (isMatch filter))))
  | _, .count collection filter =>
    (s, .ok ((recordsOf collection s.records).filter (isMatch filter)).length)
  | _, .updateAndReturn collection filter u => update s collection filter u
  | _, .update collection filter u =>
    let (s, answer) := update s collection filter u
    (s, answer.map fun _ => ())
  | _, .replaceOrInsert collection filter record =>
    let records := recordsOf collection s.records
    if records.any (isMatch filter) then
      let replaced := records.map fun other => if isMatch filter other then record else other
      ({ s with records := Keyed.put collection replaced s.records }, .ok ())
    else insert s collection record
  | _, .removeAndReturn collection filter =>
    let records := recordsOf collection s.records
    ({ s with records := Keyed.put collection (records.eraseP (isMatch filter)) s.records },
      .ok (records.find? (isMatch filter)))
  | _, .removeAll collection filter =>
    let records := recordsOf collection s.records
    let left := records.filter fun record => !isMatch filter record
    ({ s with records := Keyed.put collection left s.records }, .ok (records.length - left.length))
  | _, .ping => (s, .ok ())
  | _, .commit => (s, .ok ())
  | _, .abort => (s, .ok ())

/-- Opens the transaction of a session unless it is open. -/
def openFor (session : Session) (s : State) : State :=
  match s.transaction with
  | some (other, _) =>
    if other = session then s else { s with transaction := some (session, s.records) }
  | none => { s with transaction := some (session, s.records) }

/-- Carries out a command, within the transaction of a session or outside. -/
def serve (session : Option Session) (s : State) {α : Type} (command : Command α) :
    State × Except Failure α :=
  match session with
  | none => execute s command
  | some session =>
    match command with
    | .commit => ({ s with transaction := none }, .ok ())
    | .abort =>
      match s.transaction with
      | some (_, before) => ({ s with records := before, transaction := none }, .ok ())
      | none => (s, .ok ())
    | command => execute (openFor session s) command

end ChatService.Database.Server
