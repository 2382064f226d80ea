import OlcRtc.Client.StandardProfile
import OlcRtc.Client.SubscriptionPayload

/-!
# The identity of a profile

Two profiles are the same connection if what matters of them is the same: names and the
compatibility mode do not matter, hosts are compared without case, a DNS server by its address and
port, and so on.  `ProfileIdentity.hash` digests that with SHA-256.

An `Identity` is what matters, field by field.  The digested bytes are a prefix code of its fields,
each with its length in front or minus one if it is missing, so nothing is lost on the way to
SHA-256: **`hash_eq_iff`**.

SHA-256 has collisions, as it has but 256 bits.  What is assumed is that there are none among the
profiles at hand.
-/

namespace OlcRtc.Client.ProfileIdentity

structure OlcrtcIdentity where
  provider : Provider
  transport : Transport
  roomId : Text
  roomPassword : Option Text
  clientId : Text
  keyHex : Text
  dnsServer : Option DnsEndpoint
  vp8Fps : ℤ
  vp8BatchSize : ℤ
  keepaliveIntervalSeconds : ℤ
deriving DecidableEq

structure StandardIdentity where
  protocol : StandardProfile.Protocol
  address : Text
  port : ℤ
  uuid : Option Text
  password : Option Text
  alterId : Int32
  cipher : Text
  transport : StandardProfile.Transport
  security : StandardProfile.Security
  flow : Option Text
  serverName : Option Text
  alpn : List Text
  fingerprint : Option Text
  allowInsecure : Bool
  realityPublicKey : Option Text
  realityShortId : Option Text
  realitySpiderX : Option Text
  webSocketHost : Option Text
  webSocketPath : Option Text
  grpcServiceName : Option Text
  xhttpMode : Option Text
  xhttpHost : Option Text
  xhttpPath : Option Text
  xhttpExtraJson : Option Text
  dnsServer : Option DnsEndpoint
deriving DecidableEq

abbrev Identity := ImportedProfile OlcrtcIdentity StandardIdentity

abbrev Profile := ImportedProfile OlcrtcProfile StandardProfile

section Profiles

variable (pf : Platform)

def dnsIdentity (dns : Text) : Option DnsEndpoint := (DnsEndpoint.parse pf dns).toOption

def identity : Profile → Identity
  | .olcrtc p => .olcrtc
    { p with keyHex := pf.lowercase p.keyHex, dnsServer := p.dnsServer.bind (dnsIdentity pf) }
  | .standard p => .standard
    { p with
      address := pf.lowercase p.address
      uuid := p.uuid.map pf.lowercase
      serverName := p.serverName.map pf.lowercase
      webSocketHost := p.webSocketHost.map pf.lowercase
      xhttpHost := p.xhttpHost.map pf.lowercase
      xhttpExtraJson := p.xhttpExtraJson.map compactJson
      dnsServer := p.dnsServer.bind (dnsIdentity pf) }

def Valid : Profile → Prop
  | .olcrtc p => p.Valid pf
  | .standard p => p.Valid pf

def valuesOf : Profile → List (Option Text)
  | .olcrtc p => olcrtcValues pf p
  | .standard p => standardValues pf p

/-- `ProfileIdentity.hash` of either kind. -/
def hashOf : Profile → Text
  | .olcrtc p => hash pf p
  | .standard p => standardHash pf p

def digested (p : Profile) : Bytes := (valuesOf pf p).flatMap digestValue

abbrev Fits (values : List (Option Text)) : Prop :=
  ∀ value ∈ values, (value.elim 0 fun text => (encodeUtf8 text).length) < 2 ^ 31

end Profiles

/-! ## The digested bytes -/

lemma encodeUtf8_injective : Function.Injective encodeUtf8 := by
  intro s t h
  have hdecode := decodeUtf8_encodeUtf8 s
  rw [h, decodeUtf8_encodeUtf8] at hdecode
  exact (Option.some.inj hdecode).symm

lemma digestValue_append_inj {v v' : Option Text} {r r' : Bytes} (hv : Fits [v]) (hv' : Fits [v'])
    (h : digestValue v ++ r = digestValue v' ++ r') : v = v' ∧ r = r' := by
  have hnone : ∀ (t : Text) (r r' : Bytes), Fits [some t] →
      digestValue none ++ r ≠ digestValue (some t) ++ r' := by
    intro t r r' ht heq
    have hlt : (encodeUtf8 t).length < 2 ^ 31 := ht (some t) List.mem_cons_self
    have hprefix : bePut 4 (2 ^ 32 - 1) = bePut 4 (encodeUtf8 t).length := by
      rw [digestValue, digestValue, List.append_assoc] at heq
      exact (List.append_inj heq (length_bePut 4 _).symm).1
    have hlength := bePut_inj (by decide) (hlt.trans (by decide)) hprefix
    omega
  cases v with
  | none =>
    cases v' with
    | none => exact ⟨rfl, List.append_cancel_left h⟩
    | some t' => exact absurd h (hnone t' r r' hv')
  | some t =>
    cases v' with
    | none => exact absurd h.symm (hnone t r' r hv)
    | some t' =>
      rw [digestValue, digestValue, List.append_assoc, List.append_assoc] at h
      obtain ⟨hlength, h⟩ := List.append_inj h (by rw [length_bePut, length_bePut])
      have hlength := bePut_inj ((hv _ List.mem_cons_self).trans (by decide))
        ((hv' _ List.mem_cons_self).trans (by decide)) hlength
      obtain ⟨ht, hr⟩ := List.append_inj h hlength
      exact ⟨congrArg some (encodeUtf8_injective ht), hr⟩

lemma flatMap_digestValue_inj {vs : List (Option Text)} : ∀ {vs' : List (Option Text)}, Fits vs →
    Fits vs' → vs.flatMap digestValue = vs'.flatMap digestValue → vs = vs' := by
  have hne : ∀ v r, digestValue v ++ r ≠ [] := by
    rintro (_ | t) r h
    · cases h
    · have hlength := congrArg List.length h
      rw [digestValue, List.length_append, List.length_append, length_bePut, List.length_nil]
        at hlength
      omega
  have htail : ∀ {v : Option Text} {vs}, Fits (v :: vs) → Fits [v] ∧ Fits vs := fun h =>
    ⟨fun t ht => h t (List.mem_singleton.1 ht ▸ List.mem_cons_self),
      fun t ht => h t (List.mem_cons_of_mem _ ht)⟩
  induction vs with
  | nil =>
    rintro (_ | ⟨v', vs'⟩) _ _ h
    · rfl
    · exact absurd h.symm (hne v' _)
  | cons v vs ih =>
    rintro (_ | ⟨v', vs'⟩) hv hv' h
    · exact absurd h (hne v _)
    · obtain ⟨hhead, hrest⟩ := digestValue_append_inj (htail hv).1 (htail hv').1 h
      rw [hhead, ih (htail hv).2 (htail hv').2 hrest]

/-! ## The fields -/

lemma decimalInt_injective : Function.Injective decimalInt := by
  intro i j h
  have hval := intVal_decimalInt i
  rw [h, intVal_decimalInt] at hval
  exact (Option.some.inj hval).symm

lemma colon_not_mem_decimal (n : ℕ) : ':' ∉ decimal n := by
  intro h
  exact absurd (Nat.isDigit_of_mem_toDigits (by decide) (by decide) h) (by decide)

lemma colon_not_mem_decimalInt (i : ℤ) : ':' ∉ decimalInt i := by
  cases i with
  | ofNat n => exact colon_not_mem_decimal n
  | negSucc n =>
    rintro (_ | ⟨_, h⟩)
    exact colon_not_mem_decimal _ h

lemma toText_injective : Function.Injective DnsEndpoint.toText := by
  rintro ⟨a, n⟩ ⟨b, m⟩ h
  have hhost : ∀ e : DnsEndpoint, e.toText =
      (if ':' ∈ e.address then '[' :: e.address ++ [']'] else e.address) ++
        ':' :: decimalInt e.port := by
    intro e
    rw [DnsEndpoint.toText]
    split_ifs <;> simp
  rw [hhost, hhost] at h
  have hport := congrArg (Text.substringAfterLast ':') h
  have haddress := congrArg (Text.substringBeforeLast ':') h
  simp only [Text.substringAfterLast_append (colon_not_mem_decimalInt _),
    Text.substringBeforeLast_append (colon_not_mem_decimalInt _)] at hport haddress
  -- one of two hosts is in brackets if and only if the other is
  have hmem : ∀ a : Text, ':' ∈ (if ':' ∈ a then '[' :: a ++ [']'] else a) ↔ ':' ∈ a := by
    intro a
    split_ifs with ha <;> simp [ha]
  have hiff : ':' ∈ a ↔ ':' ∈ b := by rw [← hmem a, haddress, hmem b]
  congr
  · split_ifs at haddress <;> simp_all
  · exact decimalInt_injective hport

lemma lengthPrefixed_append_inj {a b r r' : Text}
    (h : lengthPrefixed a ++ r = lengthPrefixed b ++ r') : a = b ∧ r = r' := by
  rw [lengthPrefixed, lengthPrefixed, List.append_assoc, List.append_assoc, List.cons_append,
    List.cons_append] at h
  have hlength := congrArg (Text.substringBefore ':') h
  have hvalue := congrArg (Text.substringAfter ':' []) h
  simp only [Text.substringBefore_append (colon_not_mem_decimal _),
    Text.substringAfter_append (colon_not_mem_decimal _)] at hlength hvalue
  have hlength : Text.utf16Length a = Text.utf16Length b := by
    have hval := digitsVal_decimal (Text.utf16Length a)
    rw [hlength, digitsVal_decimal] at hval
    exact (Option.some.inj hval).symm
  have hnil : ∀ (a c : Text), Text.utf16Length (a ++ c) = Text.utf16Length a → c = [] := by
    intro a c hc
    cases c with
    | nil => rfl
    | cons d c =>
      simp only [Text.utf16Length, List.map_append, List.sum_append, List.map_cons,
        List.sum_cons] at hc
      split_ifs at hc <;> omega
  rcases List.append_eq_append_iff.1 hvalue with ⟨c, rfl, hr⟩ | ⟨c, rfl, hr⟩
  · obtain rfl := hnil a c hlength.symm
    exact ⟨(List.append_nil a).symm, hr⟩
  · obtain rfl := hnil b c hlength
    exact ⟨List.append_nil b, hr.symm⟩

lemma intercalate_lengthPrefixed_inj {as : List Text} : ∀ {bs : List Text},
    ['|'].intercalate (as.map lengthPrefixed) = ['|'].intercalate (bs.map lengthPrefixed) →
    as = bs := by
  have hcons : ∀ (a : Text) (as : List Text), ∃ rest,
      ['|'].intercalate ((a :: as).map lengthPrefixed) = lengthPrefixed a ++ rest ∧
        rest = if as = [] then [] else '|' :: ['|'].intercalate (as.map lengthPrefixed) := by
    rintro a (_ | ⟨b, as⟩)
    · exact ⟨[], by simp [List.intercalate_singleton], rfl⟩
    · refine ⟨'|' :: ['|'].intercalate ((b :: as).map lengthPrefixed), ?_, by simp⟩
      rw [List.map_cons, List.map_cons, List.intercalate_cons_cons, List.append_assoc]
      rfl
  have hne : ∀ (a : Text) (as : List Text),
      ['|'].intercalate ((a :: as).map lengthPrefixed) ≠ [] := by
    intro a as h
    obtain ⟨rest, heq, -⟩ := hcons a as
    rw [h, lengthPrefixed] at heq
    simp at heq
  induction as with
  | nil =>
    rintro (_ | ⟨b, bs⟩) h
    · rfl
    · exact absurd h.symm (hne b bs)
  | cons a as ih =>
    rintro (_ | ⟨b, bs⟩) h
    · exact absurd h (hne a as)
    · obtain ⟨r, hr, hr'⟩ := hcons a as
      obtain ⟨t, ht, ht'⟩ := hcons b bs
      rw [hr, ht] at h
      obtain ⟨rfl, hrest⟩ := lengthPrefixed_append_inj h
      rw [hr', ht'] at hrest
      split_ifs at hrest with has hbs hbs
      · rw [has, hbs]
      · rw [ih (List.cons.inj hrest).2]

variable {pf : Platform}

lemma dns_eq_iff {d d' : Option Text}
    (h : ∀ dns, d = some dns → ∃ e, DnsEndpoint.parse pf dns = .ok e)
    (h' : ∀ dns, d' = some dns → ∃ e, DnsEndpoint.parse pf dns = .ok e) :
    d.map (dnsText pf) = d'.map (dnsText pf) ↔
      d.bind (dnsIdentity pf) = d'.bind (dnsIdentity pf) := by
  have hmap : ∀ {d : Option Text},
      (∀ dns, d = some dns → ∃ e, DnsEndpoint.parse pf dns = .ok e) →
      d.map (dnsText pf) = (d.bind (dnsIdentity pf)).map DnsEndpoint.toText := by
    rintro (_ | dns) hd
    · rfl
    · obtain ⟨e, he⟩ := hd dns rfl
      simp [dnsText, dnsIdentity, he, Except.toOption]
  rw [hmap h, hmap h']
  exact (Option.map_injective toText_injective).eq_iff

lemma parse_dns_of_valid {p : StandardProfile} (h : p.Valid pf) :
    ∀ dns, p.dnsServer = some dns → ∃ e, DnsEndpoint.parse pf dns = .ok e := by
  intro dns hdns
  simp only [StandardProfile.Valid, StandardProfile.init, bind_eq_ok] at h
  obtain ⟨_, -, _, -, _, -, _, -, _, hcheck, -⟩ := h
  simp only [StandardProfile.checkDns, hdns] at hcheck
  cases hparse : DnsEndpoint.parse pf dns with
  | ok e => exact ⟨e, rfl⟩
  | error err =>
    rw [hparse] at hcheck
    cases hcheck

lemma olcrtcValues_ne_standardValues (p : OlcrtcProfile) (q : StandardProfile) :
    olcrtcValues pf p ≠ standardValues pf q := by
  intro h
  have hkind : "OLCRTC".toList = q.protocol.name := Option.some.inj (List.cons.inj h).1
  cases hprotocol : q.protocol <;> rw [hprotocol] at hkind <;> exact absurd hkind (by decide)

lemma olcrtcValues_eq_iff {p q : OlcrtcProfile} (hp : p.Valid pf) (hq : q.Valid pf) :
    olcrtcValues pf p = olcrtcValues pf q ↔ identity pf (.olcrtc p) = identity pf (.olcrtc q) := by
  obtain ⟨-, -, -, -, -, hp⟩ := (OlcrtcProfile.valid_iff pf).1 hp
  obtain ⟨-, -, -, -, -, hq⟩ := (OlcrtcProfile.valid_iff pf).1 hq
  have hdns := dns_eq_iff hp hq
  have hprovider : p.provider.value = q.provider.value ↔ p.provider = q.provider := by
    cases p.provider <;> cases q.provider <;> decide
  have htransport : p.transport.value = q.transport.value ↔ p.transport = q.transport := by
    cases p.transport <;> cases q.transport <;> decide
  simp only [olcrtcValues, identity, List.cons.injEq, Option.some.injEq, hdns, hprovider,
    htransport, decimalInt_injective.eq_iff, and_true, true_and, ImportedProfile.olcrtc.injEq,
    OlcrtcIdentity.mk.injEq]

lemma standardValues_eq_iff {p q : StandardProfile} (hp : p.Valid pf) (hq : q.Valid pf) :
    standardValues pf p = standardValues pf q ↔
      identity pf (.standard p) = identity pf (.standard q) := by
  have hdns := dns_eq_iff (parse_dns_of_valid hp) (parse_dns_of_valid hq)
  have hprotocol : p.protocol.name = q.protocol.name ↔ p.protocol = q.protocol := by
    cases p.protocol <;> cases q.protocol <;> decide
  have htransport : p.transport.name = q.transport.name ↔ p.transport = q.transport := by
    cases p.transport <;> cases q.transport <;> decide
  have hsecurity : p.security.name = q.security.name ↔ p.security = q.security := by
    cases p.security <;> cases q.security <;> decide
  have halpn : ['|'].intercalate (p.alpn.map lengthPrefixed) =
      ['|'].intercalate (q.alpn.map lengthPrefixed) ↔ p.alpn = q.alpn :=
    ⟨fun h => intercalate_lengthPrefixed_inj h, fun h => by rw [h]⟩
  have hinsecure : (if p.allowInsecure = true then "true".toList else "false".toList) =
      (if q.allowInsecure = true then "true".toList else "false".toList) ↔
      p.allowInsecure = q.allowInsecure := by
    cases p.allowInsecure <;> cases q.allowInsecure <;> decide
  simp only [standardValues, identity, List.cons.injEq, Option.some.injEq, hdns, hprotocol,
    htransport, hsecurity, halpn, hinsecure, decimalInt_injective.eq_iff, Int32.toInt_inj,
    and_true, ImportedProfile.standard.injEq, StandardIdentity.mk.injEq]

lemma valuesOf_eq_iff {p q : Profile} (hp : Valid pf p) (hq : Valid pf q) :
    valuesOf pf p = valuesOf pf q ↔ identity pf p = identity pf q := by
  cases p with
  | olcrtc p =>
    cases q with
    | olcrtc q => exact olcrtcValues_eq_iff hp hq
    | standard q => exact iff_of_false (olcrtcValues_ne_standardValues p q) nofun
  | standard p =>
    cases q with
    | olcrtc q => exact iff_of_false (olcrtcValues_ne_standardValues q p).symm nofun
    | standard q => exact standardValues_eq_iff hp hq

/-- **Profiles have the same hash exactly if they are of one kind and have the same identity**, as
long as SHA-256 does not map two of them to the same value. -/
theorem hash_eq_iff (profiles : Set Profile) (hvalid : ∀ p ∈ profiles, Valid pf p)
    (hfits : ∀ p ∈ profiles, Fits (valuesOf pf p))
    (hsha : Set.InjOn pf.sha256 (digested pf '' profiles)) {p q : Profile} (hp : p ∈ profiles)
    (hq : q ∈ profiles) : hashOf pf p = hashOf pf q ↔ identity pf p = identity pf q := by
  rw [← valuesOf_eq_iff (hvalid p hp) (hvalid q hq)]
  have hhash : ∀ p, hashOf pf p = encodeHex (pf.sha256 (digested pf p)) := by
    intro p
    cases p <;> rfl
  rw [hhash, hhash, encodeHex_injective.eq_iff]
  constructor
  · intro h
    refine flatMap_digestValue_inj (hfits p hp) (hfits q hq) ?_
    exact hsha (Set.mem_image_of_mem _ hp) (Set.mem_image_of_mem _ hq) h
  · intro h
    rw [digested, h, ← digested]

/-- A room without a password and one with the empty password have different hashes. -/
theorem hash_eq_iff_password :
    let p : OlcrtcProfile := { exampleProfile .jitsi .datachannel with roomPassword := none }
    let q : OlcrtcProfile := { p with roomPassword := some [] }
    ¬hashOf plainPlatform (.olcrtc p) = hashOf plainPlatform (.olcrtc q) := by
  intro p q
  have hp : p.Valid plainPlatform := by decide +kernel
  have hq : q.Valid plainPlatform := by decide +kernel
  have hsha : plainPlatform.sha256 (digested plainPlatform (.olcrtc p)) ≠
      plainPlatform.sha256 (digested plainPlatform (.olcrtc q)) := by decide +kernel
  rw [hash_eq_iff {.olcrtc p, .olcrtc q} ?_ ?_ ?_ (Or.inl rfl) (Or.inr rfl)]
  · simp [identity, p, q]
  · rintro _ (rfl | rfl)
    · exact hp
    · exact hq
  · rintro _ (rfl | rfl) <;> decide +kernel
  · rintro _ ⟨_, rfl | rfl, rfl⟩ _ ⟨_, rfl | rfl, rfl⟩ h
    · rfl
    · exact absurd h hsha
    · exact absurd h.symm hsha
    · rfl

end OlcRtc.Client.ProfileIdentity
