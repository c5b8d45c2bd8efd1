import ChatService.Text.Cut
import ChatService.Text.LowerCase
import ChatService.Text.Number
import ChatService.Text.Percent
import ChatService.Word

/-!
# Options of a connection string

Options are pairs `name=value` with `&` between them. A name is written in any case and not encoded,
a value is percent-encoded. Every option has a form that its value must have; none comes twice, sets
of tags apart; and some of them exclude each other.

An option that is not listed here is refused. So are those that are of use only where a name service
is asked for the hosts, where messages are compressed, or where keys are read from files: the
service does none of these.
-/

namespace ChatService.Database.ConnectionString

/-- What the value of an option must be. -/
inductive Form where
  | text
  /-- Any text but the empty one. -/
  | filled
  /-- `true` or `false`. -/
  | flag
  /-- A whole number in a range. -/
  | count (least most : Nat)
  /-- A whole number of seconds, or -1 for no limit. -/
  | staleness
  /-- How many servers confirm a write, or the name of a rule for that. -/
  | confirmation
  /-- One of some words, written in any case. -/
  | word (words : List String)
  /-- Pairs `key:value` with commas between them, neither part empty. -/
  | properties
  /-- Pairs `key:value` with commas between them, or nothing. -/
  | tags
deriving DecidableEq, Repr

/-- The parts of each pair `key:value` in a text with commas between the pairs. -/
def pairs? (cs : List Char) : Option (List (List Char × List Char)) :=
  (Text.splitAt ',' cs).mapM (Text.cut? ':')

/-- Whether a value has a form. -/
def Form.accepts (value : String) : Form → Bool
  | .text => true
  | .filled => value ≠ ""
  | .flag => value = "true" || value = "false"
  | .count least most =>
    (Text.natural? value.toList).any fun n => decide (least ≤ n) && decide (n ≤ most)
  | .staleness =>
    (Text.integer? value.toList).any fun n => decide (-1 ≤ n) && decide (n ≤ Word.maxInt64)
  | .confirmation =>
    (Text.integer? value.toList).all fun n => decide (0 ≤ n) || decide (n < -2147483648)
  | .word words => words.contains (String.ofList (Text.lower value))
  | .properties =>
    (pairs? value.toList).any fun pairs => pairs.all fun pair => pair.1 ≠ [] && pair.2 ≠ []
  | .tags => value = "" || (pairs? value.toList).isSome

/-- A number of milliseconds. -/
def milliseconds (least : Nat) : Form := .count least Word.maxUInt64

/-- A number of connections. -/
def connections (least : Nat) : Form := .count least 4294967295

/-- The form of an option, by its name in lower case. -/
def form? : String → Option Form
  | "appname" | "authmechanism" | "readconcernlevel" | "replicaset" => some .text
  | "authsource" => some .filled
  | "authmechanismproperties" => some .properties
  | "directconnection" | "journal" | "loadbalanced" | "retryreads" | "retrywrites" | "ssl" | "tls"
  | "tlsallowinvalidcertificates" | "tlsinsecure" => some .flag
  | "connecttimeoutms" | "localthresholdms" | "maxidletimems" | "serverselectiontimeoutms"
  | "wtimeoutms" => some (milliseconds 0)
  | "heartbeatfrequencyms" => some (milliseconds 500)
  | "minpoolsize" => some (connections 0)
  | "maxconnecting" | "maxpoolsize" => some (connections 1)
  | "maxstalenessseconds" => some .staleness
  | "w" => some .confirmation
  | "readpreference" =>
    some (.word ["primary", "primarypreferred", "secondary", "secondarypreferred", "nearest"])
  | "readpreferencetags" => some .tags
  | "servermonitoringmode" => some (.word ["auto", "poll", "stream"])
  | "uuidrepresentation" => some (.word ["csharplegacy", "javalegacy", "pythonlegacy"])
  | _ => none

/-- Options with their values, in the order in which they stand. -/
abbrev Options : Type := List (String × String)

/-- The name and the value of an option. -/
def option? (cs : List Char) : Option (String × String) := do
  let (name, value) ← Text.cut? '=' cs
  let name := String.ofList (Text.lower (String.ofList name))
  let value := Text.ofUtf8Lossy (Text.percentDecode (Text.utf8 value))
  let form ← form? name
  if form.accepts value then some (name, value) else none

namespace Options

variable (o : Options)

/-- The value of an option. -/
def value? (name : String) : Option String :=
  (o.find? fun option => option.1 == name).map (·.2)

/-- An option says `true`. -/
def isSet (name : String) : Bool := o.value? name == some "true"

/-- The number that an option states. -/
def count? (name : String) : Option Nat := (o.value? name).bind fun s => Text.natural? s.toList

/-- No option comes twice, except sets of tags. -/
def areDistinct : Bool :=
  let names := (o.map (·.1)).filter (· ≠ "readpreferencetags")
  names.eraseDups.length == names.length

/-- A pool has room for the connections that it always keeps. A size given apart replaces the
    one that the options state. -/
def poolFits (size : Option Nat) : Bool :=
  match o.count? "minpoolsize", size <|> o.count? "maxpoolsize" with
  | some least, some most => decide (least ≤ most)
  | _, _ => true

/-- A write that no server confirms cannot wait for a journal. -/
def writesFit : Bool :=
  !(o.isSet "journal" && ((o.value? "w").bind fun s => Text.integer? s.toList) == some 0)

/-- The number of seconds that a read may be behind, if there is a limit. -/
def staleness? : Option Int :=
  ((o.value? "maxstalenessseconds").bind fun s => Text.integer? s.toList).filter (· ≠ -1)

/-- Tags and a limit on staleness say which secondary is read from, so there must be one; and the
    limit leaves time for a server to be looked at, and for a server without writes to make one. -/
def readsFit : Bool :=
  let selects := o.staleness?.isSome || (o.value? "readpreferencetags").isSome
  let mode := (o.value? "readpreference").map fun s => String.ofList (Text.lower s)
  let least : Nat := max 90000 ((o.count? "heartbeatfrequencyms").getD 10000 + 10000)
  (!selects || (mode.isSome && mode != some "primary")) &&
    o.staleness?.all fun seconds => decide ((least : Int) ≤ seconds * 1000)

/-- A connection is encrypted or not: its two names agree, details of the encryption come only with
    it, and certificates are waived by one option. -/
def encryptionFits : Bool :=
  let encryption := [o.value? "tls", o.value? "ssl"].reduceOption
  let details := [o.value? "tlsinsecure", o.value? "tlsallowinvalidcertificates"].reduceOption
  encryption.eraseDups.length ≤ 1 && details.length ≤ 1 &&
    (details.isEmpty || !encryption.contains "false")

/-- A single server is named directly, or stands for a balanced set that it knows itself. -/
def hostsFit (hosts : Nat) : Bool :=
  let direct := o.isSet "directconnection"
  let balanced := o.isSet "loadbalanced"
  (!(direct || balanced) || hosts = 1) && !(direct && balanced) &&
    !(balanced && (o.value? "replicaset").isSome)

/-- The options agree with each other and with the number of hosts. -/
def areConsistent (hosts : Nat) : Bool :=
  o.areDistinct && o.poolFits none && o.writesFit && o.readsFit && o.encryptionFits &&
    o.hostsFit hosts

end Options

/-- Reads options; a text of none is empty. -/
def options? (cs : List Char) : Option Options :=
  if cs.isEmpty then some [] else (Text.splitAt '&' cs).mapM option?

end ChatService.Database.ConnectionString
