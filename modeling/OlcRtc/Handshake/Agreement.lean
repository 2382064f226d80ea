import Mathlib.Data.List.Nodup
import OlcRtc.Handshake.Messages
import OlcRtc.Lib.Steps

/-!
# Client and server agree

Any number of `Client` and `Server` calls over a network that delivers every frame to anyone, at any
time, as often as it likes, or never.  All it cannot do is make up a frame: what a call reads, some
call has written.

A `Client` call writes its hello and then reads frame after frame until a reply carries its
challenge.  A `Server` call reads one frame and writes one reply; nothing it does in between depends
on the other calls, and a frame may wait in the network for as long as it likes, so the call is one
step.  The auth hook is chosen anew for every call.

**`handshake_agreement`**: a client that succeeds has the session ID the auth hook gave for exactly
its hello, up to the rounding of the numbers in the claims, and the peer ID of the server that asked
the hook.  Every welcome goes back to the hello
of some client (`Inv.answered`), the challenge in it tells which one (`Inv.distinct`), and nothing
but a welcome makes a client succeed.
-/

namespace OlcRtc.Handshake

/-- A call of `Client`: its arguments, its challenge, and what it returned. -/
structure ClientRun where
  deviceID : String
  claims : Claims
  challenge : String
  result : Option ClientResult

def ClientRun.hello (c : ClientRun) : Hello :=
  ⟨protoVersion, typeHello, c.deviceID, c.challenge, c.claims⟩

/-- A call of `Server`: the peer ID it announces, the frame it read, if it read one, what it did
    with it, and the error it returned. -/
structure ServerRun where
  peerID : String
  raw : Option (List Char)
  served : Option Served
  error : Option HandshakeError

/-- All the calls, and the bodies of the frames they have written. -/
structure Net where
  clients : List ClientRun
  servers : List ServerRun
  written : List (List Char)

def Net.init : Net := ⟨[], [], []⟩

inductive NetEvent
  /-- `Client` draws its challenge and writes its hello. -/
  | client (nonce : BitVec 128) (deviceID : String) (claims : Claims) (write : WriteOutcome)
  /-- Client `i` reads frame `k`. -/
  | clientReads (i k : ℕ)
  /-- Client `i` fails to read. -/
  | clientFails (i : ℕ) (cause : String)
  /-- `Server` reads frame `k` and replies. -/
  | server (k : ℕ) (auth : AuthFunc) (peerID : String) (write : WriteOutcome)
  /-- `Server` fails to read. -/
  | serverFails (peerID cause : String)

variable (float64 : Numeral → Option Numeral)

def Net.send (s : Net) (body : List Char) (sent : Bool) : List (List Char) :=
  if sent then s.written ++ [body] else s.written

def Net.finish (s : Net) (i : ℕ) (c : ClientRun) (r : ClientResult) : Net :=
  { s with clients := s.clients.set i { c with result := some r } }

def Net.step (s : Net) : NetEvent → Net
  | .client nonce deviceID claims write =>
    let c : ClientRun := ⟨deviceID, claims, newChallenge nonce, none⟩
    let out := writeFrame c.hello.body write
    { s with
      clients := s.clients ++ [{ c with result := out.2.map fun e => .error (.sendHello e) }]
      written := s.send c.hello.body out.1 }
  | .clientReads i k =>
    match s.clients[i]?, s.written[k]? with
    | some c, some raw =>
      if c.result.isSome then s
      else
        match readReply raw c.challenge with
        | none => s
        | some r => s.finish i c r
    | _, _ => s
  | .clientFails i cause =>
    match s.clients[i]? with
    | some c => if c.result.isSome then s else s.finish i c (.error (.readWelcome cause))
    | none => s
  | .server k auth peerID write =>
    match s.written[k]? with
    | some raw =>
      let served := serve float64 raw auth peerID
      let out := writeFrame served.reply.body write
      { s with
        servers := s.servers ++
          [⟨peerID, some raw, some served, served.error <|> out.2.map HandshakeError.sendWelcome⟩]
        written := s.send served.reply.body out.1 }
    | none => s
  | .serverFails peerID cause =>
    { s with servers := s.servers ++ [⟨peerID, none, none, some (.readHello cause)⟩] }

/-- No two clients draw the same challenge. -/
def FreshChallenge (s : Net) : NetEvent → Prop
  | .client nonce _ _ _ => newChallenge nonce ∉ s.clients.map ClientRun.challenge
  | _ => True

instance (s : Net) (e : NetEvent) : Decidable (FreshChallenge s e) := by
  cases e <;> unfold FreshChallenge <;> infer_instance

/-! ## The invariant -/

def Net.hellos (s : Net) : List Hello := s.clients.map ClientRun.hello

/-- A server that read this hello, got the session ID from the auth hook for its device and its
    claims, and announced the peer ID. -/
def Welcomes (h : Hello) (ids : String × String) (srv : ServerRun) : Prop :=
  srv.peerID = ids.2 ∧ srv.raw = some h.body ∧
    ∃ served claims, srv.served = some served ∧ Json.toAnyMembers float64 h.claims = some claims ∧
      served.hello = { h with claims } ∧
      served.authCall = some ⟨h.deviceID, claims, .ok ids.1⟩ ∧
      served.reply = .welcome ⟨protoVersion, typeWelcome, ids.1, ids.2, h.challenge⟩

/-- A reply of an honest server: a reject, or the welcome to the hello of some client. -/
def Answers (hellos : List Hello) (srv : ServerRun) (served : Served) : Prop :=
  (∃ reason challenge, served.reply = .reject (rejectOf reason challenge)) ∨
  ∃ h ∈ hellos, ∃ sessionID, Welcomes float64 h (sessionID, srv.peerID) srv ∧
    served.reply = .welcome ⟨protoVersion, typeWelcome, sessionID, srv.peerID, h.challenge⟩

/-- Where every frame, every reply and every success comes from. -/
structure Net.Inv (s : Net) : Prop where
  distinct : (s.clients.map ClientRun.challenge).Nodup
  wrote : ∀ raw ∈ s.written, (∃ h ∈ s.hellos, raw = h.body) ∨
    ∃ srv ∈ s.servers, ∃ served, srv.served = some served ∧ raw = served.reply.body
  answered : ∀ srv ∈ s.servers, ∀ served, srv.served = some served →
    Answers float64 s.hellos srv served
  agreed : ∀ c ∈ s.clients, ∀ ids, c.result = some (.ok ids) →
    ∃ srv ∈ s.servers, Welcomes float64 c.hello ids srv

variable {float64}

lemma Net.Inv.init : Net.init.Inv float64 :=
  ⟨by simp [Net.init], by simp [Net.init], by simp [Net.init], by simp [Net.init]⟩

lemma Net.mem_send {s : Net} {body raw : List Char} {sent : Bool} (h : raw ∈ s.send body sent) :
    raw ∈ s.written ∨ raw = body := by
  cases sent with
  | false => exact Or.inl h
  | true => simpa [Net.send] using h

lemma Answers.mono {hs hs' : List Hello} (hle : hs ⊆ hs') {srv : ServerRun} {served : Served}
    (h : Answers float64 hs srv served) : Answers float64 hs' srv served :=
  h.imp_right fun ⟨hello, hmem, hrest⟩ => ⟨hello, hle hmem, hrest⟩

lemma ClientRun.version_of_mem_hellos {s : Net} {h : Hello} (hmem : h ∈ s.hellos) :
    h.version = protoVersion ∧ h.type = typeHello := by
  obtain ⟨c, -, rfl⟩ := List.mem_map.1 hmem
  exact ⟨rfl, rfl⟩

/-! ## What a server makes of an honest frame -/

lemma Answers.not_hello {hs : List Hello} {srv : ServerRun} {served : Served}
    (h : Answers float64 hs srv served) {hello : Hello}
    (hread : Hello.ofBody float64 served.reply.body = .ok hello) : hello.type ≠ typeHello := by
  rcases h with ⟨reason, challenge, hreply⟩ | ⟨h, -, sessionID, -, hreply⟩
  · obtain ⟨hello', hok, htype⟩ :=
      Hello.ofBody_reject float64 (r := rejectOf reason challenge) rfl
    rw [hreply, Reply.body, hok] at hread
    obtain rfl : hello' = hello := Except.ok.inj hread
    rw [htype, rejectOf]
    exact (by decide : typeReject ≠ typeHello)
  · obtain ⟨hello', hok, htype⟩ := Hello.ofBody_welcome float64
      (w := ⟨protoVersion, typeWelcome, sessionID, srv.peerID, h.challenge⟩) rfl
    rw [hreply, Reply.body, hok] at hread
    obtain rfl : hello' = hello := Except.ok.inj hread
    rw [htype]
    exact (by decide : typeWelcome ≠ typeHello)

/-- **What a server takes for a hello is the hello of a client.** -/
lemma Net.Inv.mem_hellos_of_read {s : Net} (hinv : s.Inv float64) {raw : List Char}
    (hraw : raw ∈ s.written) {hello : Hello} (hread : Hello.ofBody float64 raw = .ok hello)
    (htype : hello.type = typeHello) :
    ∃ h ∈ s.hellos, raw = h.body ∧
      ∃ claims, Json.toAnyMembers float64 h.claims = some claims ∧ hello = { h with claims } := by
  rcases hinv.wrote raw hraw with ⟨h, hmem, rfl⟩ | ⟨srv, hsrv, served, hserved, rfl⟩
  · rw [Hello.ofBody_body float64 (ClientRun.version_of_mem_hellos hmem).1] at hread
    split_ifs at hread
    cases hclaims : Json.toAnyMembers float64 h.claims with
    | none => simp [hclaims] at hread
    | some claims =>
      rw [hclaims] at hread
      exact ⟨h, hmem, rfl, claims, hclaims, (Except.ok.inj hread).symm⟩
  · exact absurd htype ((hinv.answered srv hsrv served hserved).not_hello hread)

/-! ## What a client makes of an honest frame -/

/-- **What makes a client succeed is the welcome to its own hello.** -/
lemma Net.Inv.welcomes_of_read {s : Net} (hinv : s.Inv float64) {c : ClientRun}
    (hc : c ∈ s.clients) {raw : List Char} (hraw : raw ∈ s.written) {ids : String × String}
    (hread : readReply raw c.challenge = some (.ok ids)) :
    ∃ srv ∈ s.servers, Welcomes float64 c.hello ids srv := by
  rcases hinv.wrote raw hraw with ⟨h, hmem, rfl⟩ | ⟨srv, hsrv, served, hserved, rfl⟩
  · exact absurd hread (readReply_hello (ClientRun.version_of_mem_hellos hmem).2 ids)
  rcases hinv.answered srv hsrv served hserved with
    ⟨reason, challenge, hreply⟩ | ⟨h, hmem, sessionID, hwelcomes, hreply⟩
  · rw [hreply] at hread
    exact absurd hread (readReply_reject rfl ids)
  -- the challenge of the welcome is that of the hello it answers, and no other client has it
  have hch : h.challenge = c.challenge := by
    by_contra hne
    rw [readReply_of_challenge_ne (by rw [hreply]; exact hne)] at hread
    exact absurd hread (by simp)
  obtain ⟨c', hc', hhello⟩ := List.mem_map.1 hmem
  obtain rfl : c' = c := by
    refine List.inj_on_of_nodup_map hinv.distinct hc' hc ?_
    rw [← hch, ← hhello]
    rfl
  rw [hreply, Reply.body, readReply_welcome rfl rfl hch] at hread
  obtain rfl : (sessionID, srv.peerID) = ids := Except.ok.inj (Option.some.inj hread)
  exact ⟨srv, hsrv, hhello ▸ hwelcomes⟩

/-! ## Every step keeps the invariant -/

lemma Net.Inv.finish {s : Net} (hinv : s.Inv float64) {i : ℕ} {c : ClientRun}
    (hc : s.clients[i]? = some c) {r : ClientResult}
    (hr : ∀ ids, r = .ok ids → ∃ srv ∈ s.servers, Welcomes float64 c.hello ids srv) :
    (s.finish i c r).Inv float64 := by
  have hsame : ∀ {β : Type} (f : ClientRun → β), f { c with result := some r } = f c →
      (s.finish i c r).clients.map f = s.clients.map f := by
    intro β f hf
    have hi : (s.clients.map f)[i]? = some (f c) := by rw [List.getElem?_map, hc]; rfl
    obtain ⟨hlt, hget⟩ := List.getElem?_eq_some_iff.1 hi
    rw [Net.finish, List.map_set, hf, ← hget, List.set_getElem_self hlt]
  have hhellos : (s.finish i c r).hellos = s.hellos := hsame ClientRun.hello rfl
  refine ⟨?_, ?_, ?_, ?_⟩
  · rw [hsame ClientRun.challenge rfl]
    exact hinv.distinct
  · rw [hhellos]
    exact hinv.wrote
  · rw [hhellos]
    exact hinv.answered
  · intro c' hc' ids hok
    rcases List.mem_or_eq_of_mem_set hc' with hold | rfl
    · exact hinv.agreed c' hold ids hok
    · exact hr ids (Option.some.inj hok)

lemma Net.Inv.client {s : Net} (hinv : s.Inv float64) {c : ClientRun} (sent : Bool)
    (hfresh : c.challenge ∉ s.clients.map ClientRun.challenge)
    (hfail : ∀ ids, c.result ≠ some (.ok ids)) :
    Net.Inv float64
      { s with clients := s.clients ++ [c], written := s.send c.hello.body sent } := by
  have hle : s.hellos ⊆ (s.clients ++ [c]).map ClientRun.hello :=
    List.map_subset _ (List.subset_append_left s.clients [c])
  refine ⟨?_, ?_, ?_, ?_⟩
  · show ((s.clients ++ [c]).map ClientRun.challenge).Nodup
    rw [List.map_append, List.map_singleton]
    exact List.nodup_append.2 ⟨hinv.distinct, List.nodup_singleton _, by
      rintro a ha b hb rfl
      exact hfresh (List.mem_singleton.1 hb ▸ ha)⟩
  · intro raw hraw
    rcases Net.mem_send hraw with hold | rfl
    · exact (hinv.wrote raw hold).imp_left fun ⟨h, hmem, hbody⟩ => ⟨h, hle hmem, hbody⟩
    · exact Or.inl ⟨c.hello, List.mem_map_of_mem (by simp), rfl⟩
  · intro srv hsrv served hserved
    exact (hinv.answered srv hsrv served hserved).mono hle
  · intro c' hc' ids hok
    rcases List.mem_append.1 hc' with hold | hnew
    · exact hinv.agreed c' hold ids hok
    · grind

lemma Net.Inv.server {s : Net} (hinv : s.Inv float64) {srv : ServerRun} {written : List (List Char)}
    (hsrv : ∀ served, srv.served = some served → Answers float64 s.hellos srv served)
    (hwritten : ∀ raw ∈ written, raw ∈ s.written ∨
      ∃ served, srv.served = some served ∧ raw = served.reply.body) :
    Net.Inv float64 { s with servers := s.servers ++ [srv], written := written } := by
  have hle : s.servers ⊆ s.servers ++ [srv] := List.subset_append_left s.servers [srv]
  refine ⟨hinv.distinct, ?_, ?_, ?_⟩
  · intro raw hraw
    rcases hwritten raw hraw with hold | ⟨served, hserved, hbody⟩
    · exact (hinv.wrote raw hold).imp_right fun ⟨srv, hmem, hrest⟩ => ⟨srv, hle hmem, hrest⟩
    · exact Or.inr ⟨srv, by simp, served, hserved, hbody⟩
  · intro srv' hmem served hserved
    rcases List.mem_append.1 hmem with hold | hnew
    · exact hinv.answered srv' hold served hserved
    · obtain rfl := List.mem_singleton.1 hnew
      exact hsrv served hserved
  · intro c hc ids hok
    obtain ⟨srv', hmem, hagrees⟩ := hinv.agreed c hc ids hok
    exact ⟨srv', hle hmem, hagrees⟩

/-- **Every step keeps the invariant.** -/
lemma Net.Inv.step {s : Net} {e : NetEvent} (hinv : s.Inv float64) (hfresh : FreshChallenge s e) :
    (s.step float64 e).Inv float64 := by
  cases e with
  | client nonce deviceID claims write =>
    rw [Net.step]
    generalize writeFrame _ write = out
    refine hinv.client (c := ⟨deviceID, claims, newChallenge nonce, _⟩) out.1 hfresh ?_
    intro ids
    cases out.2 <;> simp
  | clientReads i k =>
    rw [Net.step]
    split
    · rename_i c raw hc hraw
      split_ifs
      · exact hinv
      · cases hread : readReply raw c.challenge with
        | none => exact hinv
        | some r =>
          refine hinv.finish hc fun ids hr => ?_
          rw [hr] at hread
          exact hinv.welcomes_of_read (List.mem_of_getElem? hc) (List.mem_of_getElem? hraw) hread
    · exact hinv
  | clientFails i cause =>
    rw [Net.step]
    split
    · rename_i c hc
      split_ifs
      · exact hinv
      · exact hinv.finish hc fun ids hr => absurd hr (by simp)
    · exact hinv
  | server k auth peerID write =>
    rw [Net.step]
    split
    · rename_i raw hraw
      refine hinv.server ?_ ?_
      · rintro served ⟨⟩
        rcases serve_reply float64 raw auth peerID with hreject | ⟨sid, hread, htype, hcall, hreply⟩
        · exact Or.inl hreject
        · obtain ⟨h, hmem, rfl, claims, hclaims, hhello⟩ :=
            hinv.mem_hellos_of_read (List.mem_of_getElem? hraw) hread htype
          rw [hhello] at hcall hreply
          exact Or.inr ⟨h, hmem, sid, ⟨rfl, rfl, _, claims, rfl, hclaims, hhello, hcall, hreply⟩,
            hreply⟩
      · intro raw' hraw'
        exact (Net.mem_send hraw').imp_right fun h => ⟨_, rfl, h⟩
    · exact hinv
  | serverFails peerID cause =>
    exact hinv.server (by simp) fun raw hraw => Or.inl hraw

/-! ## Agreement -/

lemma Net.step_clientReads_of_ne {s : Net} {i k : ℕ} {c : ClientRun} {reply : Reply}
    (hc : s.clients[i]? = some c) (hk : s.written[k]? = some reply.body)
    (hne : reply.challenge ≠ c.challenge) : s.step float64 (.clientReads i k) = s := by
  rw [Net.step, hc, hk]
  simp only [readReply_of_challenge_ne hne, ite_self]

lemma Net.run_clientReads_of_ne {s : Net} {i : ℕ} {c : ClientRun} (hc : s.clients[i]? = some c)
    {ks : List ℕ} (hks : ∀ k ∈ ks, ∃ reply : Reply, s.written[k]? = some reply.body ∧
      reply.challenge ≠ c.challenge) : run (Net.step float64) s (ks.map (.clientReads i)) = s := by
  induction ks with
  | nil => rfl
  | cons k ks ih =>
    obtain ⟨reply, hk, hne⟩ := hks k (by simp)
    rw [List.map_cons, run_cons, Net.step_clientReads_of_ne hc hk hne]
    exact ih fun k' hk' => hks k' (List.mem_cons_of_mem k hk')

lemma Net.step_clientReads_reject {s : Net} {i k : ℕ} {c c' : ClientRun} {r : Reject}
    (hc : s.clients[i]? = some c) (hwaits : c.result = none) (hk : s.written[k]? = some r.body)
    (htype : r.type = typeReject) (hc' : (s.step float64 (.clientReads i k)).clients[i]? = some c')
    (ids : String × String) : c'.result ≠ some (.ok ids) := by
  rw [Net.step, hc, hk] at hc'
  simp only [hwaits, Option.isSome_none, Bool.false_eq_true, if_false] at hc'
  cases hread : readReply r.body c.challenge with
  | none =>
    grind
  | some result =>
    rw [hread] at hc'
    simp only [Net.finish, List.getElem?_set_self' , hc] at hc'
    obtain rfl := Option.some.inj hc'
    intro hok
    obtain rfl : result = .ok ids := Option.some.inj hok
    exact readReply_reject htype ids hread

/-- **Handshake agreement**, in every run in which no two clients draw the same challenge.  Replies
that carry other challenges change nothing at a client, and a reject never makes one succeed. -/
theorem handshake_agreement (float64 : Numeral → Option Numeral) (events : List NetEvent)
    (hfresh : Along (Net.step float64) FreshChallenge Net.init events) :
    let s := run (Net.step float64) Net.init events
    (∀ c ∈ s.clients, ∀ sessionID peerID, c.result = some (.ok (sessionID, peerID)) →
      ∃ srv ∈ s.servers, srv.peerID = peerID ∧ srv.raw = some c.hello.body ∧
        ∃ served claims, srv.served = some served ∧
          Json.toAnyMembers float64 c.claims = some claims ∧
          served.hello.challenge = c.challenge ∧ served.hello.deviceID = c.deviceID ∧
          served.hello.claims = claims ∧
          served.authCall = some ⟨c.deviceID, claims, .ok sessionID⟩ ∧
          served.reply =
            .welcome ⟨protoVersion, typeWelcome, sessionID, peerID, c.challenge⟩) ∧
    (∀ i c, s.clients[i]? = some c → ∀ ks : List ℕ,
      (∀ k ∈ ks, ∃ reply : Reply, s.written[k]? = some reply.body ∧
        reply.challenge ≠ c.challenge) →
      run (Net.step float64) s (ks.map (.clientReads i)) = s) ∧
    (∀ i k c c' (r : Reject), s.clients[i]? = some c → c.result = none →
      s.written[k]? = some r.body → r.type = typeReject →
      (s.step float64 (.clientReads i k)).clients[i]? = some c' →
      ∀ ids, c'.result ≠ some (.ok ids)) := by
  intro s
  have hinv : s.Inv float64 :=
    run_invariant _ (fun _ _ h hP => Net.Inv.step h hP) Net.Inv.init hfresh
  refine ⟨?_, ?_, ?_⟩
  · intro c hc sessionID peerID hok
    obtain ⟨srv, hsrv, hpeer, hraw, served, claims, hserved, hclaims, hhello, hcall, hreply⟩ :=
      hinv.agreed c hc _ hok
    exact ⟨srv, hsrv, hpeer, hraw, served, claims, hserved, hclaims, by rw [hhello]; rfl,
      by rw [hhello]; rfl, by rw [hhello], hcall, hreply⟩
  · intro i c hc ks hks
    exact Net.run_clientReads_of_ne hc hks
  · intro i k c c' r hc hwaits hk htype hc' ids
    exact Net.step_clientReads_reject hc hwaits hk htype hc' ids

def crossedReplies : List NetEvent :=
  [.client 1 "phone" [("uid", .ofInt 9007199254740993)] .done, .client 2 "tablet" [] .done,
    .server 0 (fun _ _ => .ok "session-1") "server-a" .done,
    .server 1 (fun _ _ => .error "unknown device") "server-b" .done,
    .clientReads 0 3, .clientReads 1 2, .clientReads 0 2]

/-- The odd numbers from 2 ^ 53 on are no `float64`. -/
def roundOdd (n : Numeral) : Option Numeral :=
  if n.text = "9007199254740993".toList then some ⟨_, isNumeral_decimalInt 9007199254740992⟩
  else some n

/-- The phone skips the reply to the tablet and agrees with the server that answered it, which has
    rounded the claim. -/
theorem handshake_agreement_crossedReplies :
    let s := run (Net.step roundOdd) Net.init crossedReplies
    s.clients.map ClientRun.result = [some (.ok ("session-1", "server-a")), none] ∧
    ∃ srv ∈ s.servers, srv.peerID = "server-a" ∧ ∃ served, srv.served = some served ∧
      served.hello.challenge = newChallenge 1 ∧ served.hello.deviceID = "phone" ∧
      (served.hello.claims.map fun m => (m.1, marshal m.2)) =
        [("uid", "9007199254740992".toList)] := by
  have hphone : ∃ c ∈ (run (Net.step roundOdd) Net.init crossedReplies).clients,
      c.challenge = newChallenge 1 ∧ c.deviceID = "phone" ∧
      c.result = some (.ok ("session-1", "server-a")) ∧
      (Json.toAnyMembers roundOdd c.claims).map (fun ms => ms.map fun m => (m.1, marshal m.2)) =
        some [("uid", "9007199254740992".toList)] := by decide +kernel
  obtain ⟨c, hc, hch, hdevice, hok, hround⟩ := hphone
  obtain ⟨srv, hsrv, hpeer, -, served, claims, hserved, hclaims, hch', hdevice', hclaims', -⟩ :=
    (handshake_agreement roundOdd crossedReplies (by decide +kernel)).1 c hc _ _ hok
  refine ⟨by decide +kernel, srv, hsrv, hpeer, served, hserved, ?_, ?_, ?_⟩
  · rw [hch', hch]
  · rw [hdevice', hdevice]
  · rw [hclaims, Option.map_some] at hround
    rw [hclaims']
    exact Option.some.inj hround

end OlcRtc.Handshake
