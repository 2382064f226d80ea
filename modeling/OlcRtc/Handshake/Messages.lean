import Mathlib.Algebra.GroupWithZero.Nat
import OlcRtc.Lib.JsonRecord

/-!
# The messages of the session handshake

`internal/handshake`: the client sends a `CLIENT_HELLO`, the server answers with a `SERVER_WELCOME`
or a `SERVER_REJECT`, each a JSON record in a frame of its own.  This module has the three messages
as they are written and read, what `Client` makes of one frame (`readReply`) and what `Server` does
with one (`serve`).

A client reads every reply twice: a first time for its type and challenge alone, and, once the
challenge is its own, as the message its type announces.  The lemmas below say what each of these
readings finds in each of the three messages, so that the exchange can be followed without looking
at texts again.

The bodies are texts of characters: Go strings that are valid UTF-8.  What `framing` refuses is the
length of the body in bytes.
-/

namespace OlcRtc.Handshake

def protoVersion : ℤ := 3

def challengeSize : ℕ := 16

def maxMessageSize : ℕ := 64 * 1024

def typeHello : String := "CLIENT_HELLO"

def typeWelcome : String := "SERVER_WELCOME"

def typeReject : String := "SERVER_REJECT"

/-- The claims of a client, a `map[string]any`. -/
abbrev Claims := List (String × Json)

/-- `Hello`. -/
structure Hello where
  version : ℤ
  type : String
  deviceID : String
  challenge : String
  claims : Claims

/-- `Welcome`. -/
structure Welcome where
  version : ℤ
  type : String
  sessionID : String
  peerID : String
  challenge : String
  deriving DecidableEq

/-- `Reject`. -/
structure Reject where
  version : ℤ
  type : String
  reason : String
  challenge : String
  deriving DecidableEq

/-- What `readReply` reads first. -/
structure Probe where
  type : String
  challenge : String
  deriving DecidableEq

/-! ## Writing -/

/-- A string member that is left out when it is empty. -/
def omitEmpty (name value : String) : List (String × Json) :=
  if value = "" then [] else [(name, .str value)]

/-- The members of a `Hello`. -/
def Hello.members (h : Hello) : List (String × Json) :=
  [("version", .ofInt h.version), ("type", .str h.type), ("device_id", .str h.deviceID),
    ("challenge", .str h.challenge)] ++ if h.claims.isEmpty then [] else [("claims", .obj h.claims)]

/-- The members of a `Welcome`. -/
def Welcome.members (w : Welcome) : List (String × Json) :=
  [("version", .ofInt w.version), ("type", .str w.type), ("session_id", .str w.sessionID)] ++
    omitEmpty "peer_id" w.peerID ++ [("challenge", .str w.challenge)]

/-- The members of a `Reject`. -/
def Reject.members (r : Reject) : List (String × Json) :=
  [("version", .ofInt r.version), ("type", .str r.type), ("reason", .str r.reason)] ++
    omitEmpty "challenge" r.challenge

/-- The body of a `Hello`. -/
def Hello.body (h : Hello) : List Char := marshal (.obj h.members)

/-- The body of a `Welcome`. -/
def Welcome.body (w : Welcome) : List Char := marshal (.obj w.members)

/-- The body of a `Reject`. -/
def Reject.body (r : Reject) : List Char := marshal (.obj r.members)

inductive Reply
  | welcome (w : Welcome)
  | reject (r : Reject)
  deriving DecidableEq

def Reply.body : Reply → List Char
  | .welcome w => w.body
  | .reject r => r.body

def Reply.challenge : Reply → String
  | .welcome w => w.challenge
  | .reject r => r.challenge

def utf8Length (body : List Char) : ℕ := (body.map Char.utf8Size).sum

/-- What became of the writes of one frame: all of it was taken, or some `Write` failed, and the
    frame may have gone out all the same. -/
inductive WriteOutcome
  | done
  | failed (cause : String) (sent : Bool)

/-- `writeFrame`: whether the frame is out, and the error. -/
def writeFrame (body : List Char) (w : WriteOutcome) : Bool × Option String :=
  if utf8Length body > maxMessageSize then
    (false, some s!"frame too large: {utf8Length body} > {maxMessageSize}")
  else
    match w with
    | .done => (true, none)
    | .failed cause sent => (sent, some cause)

/-! ## Reading -/

section Reading

variable (float64 : Numeral → Option Numeral)

/-- The fields of a `Hello`. -/
def Hello.fields : List (JsonField Hello) :=
  [⟨"version", setInt fun i h => { h with version := i }⟩,
    ⟨"type", setString fun s h => { h with type := s }⟩,
    ⟨"device_id", setString fun s h => { h with deviceID := s }⟩,
    ⟨"challenge", setString fun s h => { h with challenge := s }⟩,
    ⟨"claims", setMap float64 fun f h => { h with claims := f h.claims }⟩]

/-- The fields of a `Welcome`. -/
def Welcome.fields : List (JsonField Welcome) :=
  [⟨"version", setInt fun i w => { w with version := i }⟩,
    ⟨"type", setString fun s w => { w with type := s }⟩,
    ⟨"session_id", setString fun s w => { w with sessionID := s }⟩,
    ⟨"peer_id", setString fun s w => { w with peerID := s }⟩,
    ⟨"challenge", setString fun s w => { w with challenge := s }⟩]

/-- The fields of a `Reject`. -/
def Reject.fields : List (JsonField Reject) :=
  [⟨"version", setInt fun i r => { r with version := i }⟩,
    ⟨"type", setString fun s r => { r with type := s }⟩,
    ⟨"reason", setString fun s r => { r with reason := s }⟩,
    ⟨"challenge", setString fun s r => { r with challenge := s }⟩]

def Probe.fields : List (JsonField Probe) :=
  [⟨"type", setString fun s p => { p with type := s }⟩,
    ⟨"challenge", setString fun s p => { p with challenge := s }⟩]

/-- `Hello{}`. -/
def Hello.zero : Hello := ⟨0, "", "", "", []⟩

/-- A frame as a `Hello`. -/
def Hello.ofBody : List Char → Except JsonError Hello :=
  unmarshal (Hello.fields float64) Hello.zero

/-- A frame as a `Welcome`. -/
def Welcome.ofBody : List Char → Except JsonError Welcome :=
  unmarshal Welcome.fields ⟨0, "", "", "", ""⟩

/-- A frame as a `Reject`. -/
def Reject.ofBody : List Char → Except JsonError Reject :=
  unmarshal Reject.fields ⟨0, "", "", ""⟩

def Probe.ofBody : List Char → Except JsonError Probe := unmarshal Probe.fields ⟨"", ""⟩

/-! ## The client -/

/-- The errors of `Client` and `Server`, with what their texts mention. -/
inductive HandshakeError
  /-- `send hello: handshake: …` -/
  | sendHello (cause : String)
  /-- `read welcome: handshake: …` -/
  | readWelcome (cause : String)
  /-- `parse reply: …` -/
  | parseReply (cause : JsonError)
  /-- `parse welcome: …` -/
  | parseWelcome (cause : JsonError)
  /-- `parse reject: …` -/
  | parseReject (cause : JsonError)
  /-- `unexpected handshake message: got …` -/
  | unexpectedMessage (type : String)
  /-- `incompatible protocol version: …`, with the version of the other side. -/
  | protocolVersion (other : ℤ)
  /-- `handshake challenge mismatch` -/
  | challengeMismatch
  /-- `handshake rejected: …` -/
  | rejected (reason : String)
  /-- `read hello: handshake: …` -/
  | readHello (cause : String)
  /-- `parse hello: …` -/
  | parseHello (cause : JsonError)
  /-- `handshake challenge required` -/
  | challengeRequired
  /-- `auth: …` -/
  | auth (cause : String)
  /-- `send welcome: handshake: …` -/
  | sendWelcome (cause : String)
  deriving DecidableEq

/-- What `Client` returns: the session ID and the peer ID. -/
abbrev ClientResult := Except HandshakeError (String × String)

def parseWelcome (raw : List Char) (challenge : String) : ClientResult :=
  match Welcome.ofBody raw with
  | .error e => .error (.parseWelcome e)
  | .ok w =>
    if w.version ≠ protoVersion then .error (.protocolVersion w.version)
    else if w.challenge ≠ challenge then .error .challengeMismatch
    else .ok (w.sessionID, w.peerID)

def parseReject (raw : List Char) (challenge : String) : HandshakeError :=
  match Reject.ofBody raw with
  | .error e => .parseReject e
  | .ok r => if r.challenge ≠ challenge then .challengeMismatch else .rejected r.reason

/-- `readReply`, once the frame is read; `none` is a reply to someone else. -/
def readReply (raw : List Char) (challenge : String) : Option ClientResult :=
  match Probe.ofBody raw with
  | .error e => some (.error (.parseReply e))
  | .ok probe =>
    if probe.challenge ≠ challenge then none
    else if probe.type = typeWelcome then some (parseWelcome raw challenge)
    else if probe.type = typeReject then some (.error (parseReject raw challenge))
    else some (.error (.unexpectedMessage probe.type))

/-- `newChallenge`, from the random bytes on: their hexadecimal digits. -/
def newChallenge (nonce : BitVec 128) : String := String.ofList (hexPut 32 nonce.toNat)

/-! ## The server -/

def validChallenge (challenge : String) : Bool :=
  (decodeHex challenge.toList).any fun decoded => decoded.length = challengeSize

/-- `AuthFunc`: the hook that turns a device and its claims into a session ID or an error text. -/
abbrev AuthFunc := String → Claims → Except String String

/-- A `Reject` of this version. -/
def rejectOf (reason challenge : String) : Reject := ⟨protoVersion, typeReject, reason, challenge⟩

structure AuthCall where
  deviceID : String
  claims : Claims
  answer : Except String String

/-- What one `Server` call did with the frame it read. -/
structure Served where
  /-- The `Hello` it returns. -/
  hello : Hello
  /-- The call of the auth hook, if it came to that. -/
  authCall : Option AuthCall
  /-- The reply it writes. -/
  reply : Reply
  /-- The session ID it returns. -/
  sessionID : String
  /-- The error it returns, if the reply goes out. -/
  error : Option HandshakeError

/-- `Server`, once the frame is read. -/
def serve (raw : List Char) (auth : AuthFunc) (peerID : String) : Served :=
  match Hello.ofBody float64 raw with
  | .error e =>
    ⟨Hello.zero, none, .reject (rejectOf "malformed hello" ""), "", some (.parseHello e)⟩
  | .ok h =>
    if h.type ≠ typeHello then
      ⟨h, none, .reject (rejectOf "expected CLIENT_HELLO" ""), "",
        some (.unexpectedMessage h.type)⟩
    else if h.version ≠ protoVersion then
      ⟨h, none, .reject (rejectOf "protocol version mismatch" h.challenge), "",
        some (.protocolVersion h.version)⟩
    else if ¬ validChallenge h.challenge then
      ⟨h, none, .reject (rejectOf "invalid handshake challenge" h.challenge), "",
        some .challengeRequired⟩
    else
      match auth h.deviceID h.claims with
      | .error cause =>
        ⟨h, some ⟨h.deviceID, h.claims, .error cause⟩, .reject (rejectOf cause h.challenge), "",
          some (.auth cause)⟩
      | .ok sessionID =>
        ⟨h, some ⟨h.deviceID, h.claims, .ok sessionID⟩,
          .welcome ⟨protoVersion, typeWelcome, sessionID, peerID, h.challenge⟩, sessionID, none⟩

/-! ## What each reading finds -/

/-- Whether a client's message is nested within the limit of the reader. -/
def Hello.Readable (h : Hello) : Prop := (Json.obj h.members).depth ≤ maxNestingDepth

instance (h : Hello) : Decidable h.Readable := inferInstanceAs (Decidable (_ ≤ _))

@[simp] lemma setInt_protoVersion {α : Type} (put : ℤ → α → α) (a : α) :
    setInt put (.ofInt protoVersion) a = some (put protoVersion a) :=
  setInt_ofInt put a (by decide) (by decide)

lemma Welcome.depth_members_le (w : Welcome) : (Json.obj w.members).depth ≤ maxNestingDepth := by
  simp only [Welcome.members, omitEmpty]
  split_ifs <;> simp [Json.depth, Json.depthMembers, Json.ofInt, maxNestingDepth]

lemma Reject.depth_members_le (r : Reject) : (Json.obj r.members).depth ≤ maxNestingDepth := by
  simp only [Reject.members, omitEmpty]
  split_ifs <;> simp [Json.depth, Json.depthMembers, Json.ofInt, maxNestingDepth]

lemma Hello.ofBody_body {h : Hello} (hv : h.version = protoVersion) :
    Hello.ofBody float64 h.body =
      if h.Readable then
        match Json.toAnyMembers float64 h.claims with
        | some claims => .ok { h with claims }
        | none => .error (.mismatch "claims")
      else .error .malformed := by
  rw [Hello.ofBody, Hello.body, unmarshal_marshal]
  refine if_congr Iff.rfl ?_ rfl
  obtain ⟨version, type, deviceID, challenge, claims⟩ := h
  obtain rfl : version = protoVersion := hv
  cases claims with
  | nil =>
    simp [Hello.members, setMembers, fieldOf, Hello.fields, setString, Hello.zero,
      Json.toAnyMembers]
  | cons m ms =>
    cases hclaims : Json.toAnyMembers float64 (m :: ms) <;>
      simp [Hello.members, setMembers, fieldOf, Hello.fields, setString, setMap, Hello.zero,
        hclaims]

lemma Welcome.ofBody_body {w : Welcome} (hv : w.version = protoVersion) :
    Welcome.ofBody w.body = .ok w := by
  rw [Welcome.ofBody, Welcome.body, unmarshal_marshal, if_pos w.depth_members_le]
  obtain ⟨version, type, sessionID, peerID, challenge⟩ := w
  obtain rfl : version = protoVersion := hv
  by_cases hpeer : peerID = "" <;>
    simp [Welcome.members, omitEmpty, hpeer, setMembers, fieldOf, Welcome.fields, setString]

lemma Hello.ofBody_welcome {w : Welcome} (hv : w.version = protoVersion) :
    ∃ h, Hello.ofBody float64 w.body = .ok h ∧ h.type = w.type := by
  rw [Hello.ofBody, Welcome.body, unmarshal_marshal, if_pos w.depth_members_le]
  refine ⟨⟨w.version, w.type, "", w.challenge, []⟩, ?_, rfl⟩
  by_cases hpeer : w.peerID = "" <;>
    simp [Welcome.members, omitEmpty, hpeer, setMembers, fieldOf, Hello.fields, setString, hv,
      Hello.zero, foldName, foldChar]

lemma Hello.ofBody_reject {r : Reject} (hv : r.version = protoVersion) :
    ∃ h, Hello.ofBody float64 r.body = .ok h ∧ h.type = r.type := by
  rw [Hello.ofBody, Reject.body, unmarshal_marshal, if_pos r.depth_members_le]
  refine ⟨⟨r.version, r.type, "", r.challenge, []⟩, ?_, rfl⟩
  by_cases hch : r.challenge = "" <;>
    simp [Reject.members, omitEmpty, hch, setMembers, fieldOf, Hello.fields, setString, hv,
      Hello.zero, foldName, foldChar]

lemma Probe.ofBody_hello (h : Hello) : Probe.ofBody h.body
    = if h.Readable then .ok ⟨h.type, h.challenge⟩ else .error .malformed := by
  have hset : setMembers Probe.fields h.members ⟨"", ""⟩ = .ok ⟨h.type, h.challenge⟩ := by
    cases hcl : h.claims <;>
      simp [Hello.members, hcl, setMembers, fieldOf, Probe.fields, setString, foldName, foldChar]
  rw [Probe.ofBody, Hello.body, unmarshal_marshal, hset]
  rfl

lemma Probe.ofBody_welcome (w : Welcome) : Probe.ofBody w.body = .ok ⟨w.type, w.challenge⟩ := by
  rw [Probe.ofBody, Welcome.body, unmarshal_marshal, if_pos w.depth_members_le]
  by_cases hpeer : w.peerID = "" <;>
    simp [Welcome.members, omitEmpty, hpeer, setMembers, fieldOf, Probe.fields, setString,
      foldName, foldChar]

lemma Probe.ofBody_reject (r : Reject) : Probe.ofBody r.body = .ok ⟨r.type, r.challenge⟩ := by
  rw [Probe.ofBody, Reject.body, unmarshal_marshal, if_pos r.depth_members_le]
  by_cases hch : r.challenge = "" <;>
    simp [Reject.members, omitEmpty, hch, setMembers, fieldOf, Probe.fields, setString,
      foldName, foldChar]

/-! ## What the two sides do with each message -/

lemma readReply_of_challenge_ne {reply : Reply} {challenge : String}
    (hne : reply.challenge ≠ challenge) : readReply reply.body challenge = none := by
  cases reply with
  | welcome w =>
    simp only [readReply, Reply.body, Probe.ofBody_welcome]
    exact if_pos hne
  | reject r =>
    simp only [readReply, Reply.body, Probe.ofBody_reject]
    exact if_pos hne

lemma readReply_welcome {w : Welcome} {challenge : String} (hv : w.version = protoVersion)
    (htype : w.type = typeWelcome) (hch : w.challenge = challenge) :
    readReply w.body challenge = some (.ok (w.sessionID, w.peerID)) := by
  simp [readReply, Probe.ofBody_welcome, parseWelcome, Welcome.ofBody_body hv, hv, htype, hch]

lemma readReply_reject {r : Reject} {challenge : String} (htype : r.type = typeReject)
    (ids : String × String) : readReply r.body challenge ≠ some (.ok ids) := by
  have hne : typeReject ≠ typeWelcome := by decide
  simp only [readReply, Probe.ofBody_reject, htype, if_neg hne]
  split_ifs <;> simp

lemma readReply_hello {h : Hello} {challenge : String} (htype : h.type = typeHello)
    (ids : String × String) : readReply h.body challenge ≠ some (.ok ids) := by
  have hwelcome : typeHello ≠ typeWelcome := by decide
  have hreject : typeHello ≠ typeReject := by decide
  rw [readReply, Probe.ofBody_hello]
  by_cases hread : h.Readable
  · grind
  · simp [if_neg hread]

/-- **A server replies to what it read**: with a welcome only to a hello the auth hook has answered
    with the session ID, and with a reject otherwise. -/
lemma serve_reply (raw : List Char) (auth : AuthFunc) (peerID : String) :
    (∃ reason challenge,
      (serve float64 raw auth peerID).reply = .reject (rejectOf reason challenge)) ∨
    ∃ sessionID, Hello.ofBody float64 raw = .ok (serve float64 raw auth peerID).hello ∧
      (serve float64 raw auth peerID).hello.type = typeHello ∧
      (serve float64 raw auth peerID).authCall =
        some ⟨(serve float64 raw auth peerID).hello.deviceID,
          (serve float64 raw auth peerID).hello.claims, .ok sessionID⟩ ∧
      (serve float64 raw auth peerID).reply = .welcome ⟨protoVersion, typeWelcome, sessionID,
        peerID, (serve float64 raw auth peerID).hello.challenge⟩ := by
  rw [serve]
  cases hread : Hello.ofBody float64 raw with
  | error e => exact Or.inl ⟨_, _, rfl⟩
  | ok h =>
    grind

end Reading

end OlcRtc.Handshake
