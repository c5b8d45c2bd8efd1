import ChatService.Database.ConnectionString.Options

/-!
# Who connects

A user and a password stand in front of the hosts, and options say how they are proved. Every way of
proving them has its own rules on what must be given and what must not.
-/

namespace ChatService.Database.ConnectionString

/-- How a user proves who it is. -/
inductive Mechanism where
  | scramSha1
  | scramSha256
  /-- By the certificate of the connection. -/
  | certificate
  | plain
  /-- By a token that the environment hands out. -/
  | environmentToken
deriving DecidableEq, Repr

def Mechanism.ofName? : String → Option Mechanism
  | "SCRAM-SHA-1" => some .scramSha1
  | "SCRAM-SHA-256" => some .scramSha256
  | "MONGODB-X509" => some .certificate
  | "PLAIN" => some .plain
  | "MONGODB-OIDC" => some .environmentToken
  | _ => none

/-- What stands in front of the hosts; the user may be empty. -/
structure Credentials where
  user : String
  password : Option String
deriving DecidableEq, Repr

namespace Credentials

/-- Reserved characters are percent-encoded, and a percent sign begins an encoded character. -/
def isUserText (cs : List Char) : Bool :=
  cs.all (fun c => !":/?#[]@".toList.contains c) &&
    (Text.splitAt '%' cs).tail.all fun part =>
      part.length ≥ 2 && (part.take 2).all fun c => (Text.hexValue? c).isSome

/-- Reads a user name or a password. -/
def userText? (cs : List Char) : Option String :=
  if isUserText cs then Text.percentDecodeText? cs else none

/-- Reads a user, and a password behind a colon. -/
def ofText? (cs : List Char) : Option Credentials := do
  let (user, password) := Text.cut ':' cs
  let user ← userText? user
  match password with
  | none => some ⟨user, none⟩
  | some password => (userText? password).map fun password => ⟨user, some password⟩

end Credentials

/-- The environments that hand out tokens, and whether they want to know what for. -/
def environments : List (String × Bool) :=
  [("azure", true), ("gcp", true), ("k8s", false), ("test", false)]

/-- The properties of a token: an environment, and what the token is for where that is asked. -/
def tokenPropertiesFit (user : Option String) (properties : List (String × String)) : Bool :=
  let value? (name : String) := (properties.find? fun p => p.1 == name).map (·.2)
  properties.all (fun p => p.1 == "ENVIRONMENT" || p.1 == "TOKEN_RESOURCE") &&
    match (value? "ENVIRONMENT").bind fun name => environments.find? fun e => e.1 == name with
    | some (name, wantsResource) =>
      (value? "TOKEN_RESOURCE").isSome == wantsResource && (user.isNone || name == "azure")
    | none => false

/-- Whether a mechanism has what it needs, and nothing that it forbids. -/
def Mechanism.accepts (o : Options) (credentials : Option Credentials) : Mechanism → Bool :=
  let user := (credentials.map (·.user)).filter (· ≠ "")
  let password := credentials.bind (·.password)
  let isExternal := (o.value? "authsource").all (· == "$external")
  fun
  | .scramSha1 | .scramSha256 | .plain => user.isSome && password.isSome
  | .certificate => password.isNone && isExternal
  | .environmentToken =>
    let properties := (((o.value? "authmechanismproperties").bind fun s => pairs? s.toList).getD [])
    password.isNone && isExternal &&
      tokenPropertiesFit user (properties.map fun p => (String.ofList p.1, String.ofList p.2))

/-- Whether credentials and options say completely who connects. Without a mechanism, what stands in
    front of the hosts must name a user. -/
def identityFits (o : Options) (credentials : Option Credentials) : Bool :=
  match o.value? "authmechanism" with
  | none => credentials.all (·.user ≠ "")
  | some name => (Mechanism.ofName? name).any (·.accepts o credentials)

end ChatService.Database.ConnectionString
