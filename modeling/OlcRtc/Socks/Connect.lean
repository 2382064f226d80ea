import Mathlib.Data.List.TakeDrop
import OlcRtc.Lib.NetIP
import OlcRtc.Lib.Reads

/-!
# The SOCKS5 request for a target

A server behind a proxy asks it for a target with the request of `internal/server/egress.go`; the
local proxy of a client reads requests of the same form (`internal/client/socks.go`).  The two were
written apart from each other.  This module has both, byte for byte, and compares them.

* `ConnectRequest.validate` admits any target with a host and a port in `1..65535`.
* `socks5ConnectRequest` writes it: an address of IPv4 or IPv6 in its bytes, any other host as a
  domain of at most 255 bytes.
* `socks5Request` reads a request from a connection.

**Agreement.**  The reader accepts what is written for an admitted target, takes exactly its bytes
and finds the port (`socks5Request_socks5ConnectRequest`).  The host is the one that was asked for
if it is an address or has at most 255 bytes, and only then: a longer one is cut off, although
`validate` is there to refuse targets "that would resolve to something the peer did not ask for".
-/

namespace OlcRtc.Socks

open NetIP

/-! ## The writer -/

/-- `ConnectRequest`. -/
structure ConnectRequest where
  cmd : Bytes
  addr : Bytes
  port : ℤ
  deriving DecidableEq

def errInvalidTarget : String := "invalid connect target"

def ConnectRequest.validate (r : ConnectRequest) : Except String Unit :=
  if r.addr = [] then .error (errInvalidTarget ++ ": empty host")
  else if r.port ≤ 0 ∨ 65535 < r.port then
    .error (errInvalidTarget ++ ": port " ++ toString r.port)
  else .ok ()

def socks5Address (targetAddr : Bytes) : Bytes :=
  match parseIP targetAddr with
  | some ip =>
    match to4 ip with
    | some ip4 => 1 :: ip4
    | none => 4 :: (to16 ip).getD []
  | none =>
    let targetAddr := if 255 < targetAddr.length then targetAddr.take 255 else targetAddr
    3 :: UInt8.ofNat targetAddr.length :: targetAddr

def socks5ConnectRequest (targetAddr : Bytes) (targetPort : ℤ) : Bytes :=
  5 :: 1 :: 0 :: (socks5Address targetAddr ++
    [UInt8.ofInt (targetPort >>> (8 : ℕ)), UInt8.ofInt targetPort])

/-! ## The reader -/

def errUnsupportedSOCKSCommand : String := "unsupported socks command"

def errUnsupportedAddressType : String := "unsupported address type"

def errEmptySOCKSDomain : String := "empty socks5 domain"

def readIP (length : ℕ) (label : String) : ConnReader Bytes := do
  let buffer ← readFull ("read socks5 " ++ label) length
  return ipString buffer

def readSocks5Addr (addrType : UInt8) : ConnReader Bytes :=
  if addrType = 1 then readIP 4 "ipv4"
  else if addrType = 4 then readIP 16 "ipv6"
  else if addrType = 3 then do
    let length ← readFull "read socks5 domain len" 1
    if length.getD 0 0 = 0 then throw errEmptySOCKSDomain
    else readFull "read socks5 domain" (length.getD 0 0).toNat
  else throw (errUnsupportedAddressType ++ ": " ++ toString addrType)

/-- `socks5Request`: the host and the port.  The version and the reserved byte are not looked
at. -/
def socks5Request : ConnReader (Bytes × ℤ) := do
  let header ← readFull "read socks5 request" 4
  if header.getD 1 0 ≠ 1 then
    throw (errUnsupportedSOCKSCommand ++ ": " ++ toString (header.getD 1 0))
  else
    let addr ← readSocks5Addr (header.getD 3 0)
    let portBytes ← readFull "read socks5 port" 2
    return (addr, (beGet portBytes : ℤ))

/-! ## Agreement -/

/-- Two texts name the same host: the same address if the first is the text of one, and the same
text otherwise. -/
def SameHost (asked host : Bytes) : Prop :=
  match parseIP asked with
  | some ip => parseIP host = some ip
  | none => host = asked

instance (asked host : Bytes) : Decidable (SameHost asked host) :=
  match h : parseIP asked with
  | some ip => decidable_of_iff (parseIP host = some ip) (by rw [SameHost, h])
  | none => decidable_of_iff (host = asked) (by rw [SameHost, h])

/-- What the reader finds in the request for a target: the host that is asked for. -/
def hostRead (targetAddr : Bytes) : Bytes :=
  match parseIP targetAddr with
  | some ip => ipString ((to4 ip).getD ip)
  | none => targetAddr.take 255

/-- The request for a target is read back as that target, with nothing of what follows it. -/
def Agrees (r : ConnectRequest) : Prop :=
  ∀ rest, ∃ host, socks5Request (socks5ConnectRequest r.addr r.port ++ rest) =
    .ok ((host, r.port), rest) ∧ SameHost r.addr host

lemma validate_ok {r : ConnectRequest} (hvalid : r.validate = .ok ()) :
    r.addr ≠ [] ∧ 1 ≤ r.port ∧ r.port ≤ 65535 := by
  rw [ConnectRequest.validate] at hvalid
  split_ifs at hvalid with hempty hport
  exact ⟨hempty, by omega, by omega⟩

lemma readIP_append {length : ℕ} {ip : Bytes} (hlen : ip.length = length) (label : String)
    (rest : Bytes) : readIP length label (ip ++ rest) = .ok (ipString ip, rest) :=
  ConnReader.bind_of_ok (readFull_append _ ip rest hlen) _

lemma readSocks5Addr_domain {domain : Bytes} (hne : domain ≠ []) (hlen : domain.length ≤ 255)
    (rest : Bytes) :
    readSocks5Addr 3 (UInt8.ofNat domain.length :: domain ++ rest) = .ok (domain, rest) := by
  have hpos : 0 < domain.length := List.length_pos_of_ne_nil hne
  have hbyte : (UInt8.ofNat domain.length).toNat = domain.length := by
    rw [UInt8.toNat_ofNat']
    omega
  have hnonzero : UInt8.ofNat domain.length ≠ 0 := by
    intro hzero
    rw [hzero] at hbyte
    exact absurd hbyte (by simp only [UInt8.toNat_zero]; omega)
  have hlength : readFull "read socks5 domain len" 1 (UInt8.ofNat domain.length :: domain ++ rest) =
      .ok ([UInt8.ofNat domain.length], domain ++ rest) :=
    readFull_append _ [UInt8.ofNat domain.length] _ rfl
  rw [readSocks5Addr, if_neg (by decide), if_neg (by decide), if_pos rfl,
    ConnReader.bind_of_ok hlength]
  show (if UInt8.ofNat domain.length = 0 then _ else _ : ConnReader Bytes) _ = _
  rw [if_neg hnonzero]
  exact readFull_append _ domain rest hbyte.symm

lemma readSocks5Addr_socks5Address {addr : Bytes} (hne : addr ≠ []) :
    ∃ addrType body, socks5Address addr = addrType :: body ∧
      ∀ rest, readSocks5Addr addrType (body ++ rest) = .ok (hostRead addr, rest) := by
  rw [socks5Address, hostRead]
  cases hip : parseIP addr with
  | some ip =>
    have hlen := length_parseIP hip
    dsimp only
    cases hto4 : to4 ip with
    | some ip4 =>
      have hlen4 : ip4.length = 4 := by
        rw [to4, if_neg (by omega)] at hto4
        split_ifs at hto4
        rw [← Option.some.inj hto4, List.length_drop, hlen]
      exact ⟨1, ip4, rfl, fun rest => readIP_append hlen4 "ipv4" rest⟩
    | none =>
      have hto16 : to16 ip = some ip := by
        rw [to16, if_neg (by omega), if_pos hlen]
      refine ⟨4, ip, ?_, fun rest => readIP_append hlen "ipv6" rest⟩
      rw [hto16]
      rfl
  | none =>
    have hclamp : (if 255 < addr.length then addr.take 255 else addr) = addr.take 255 := by
      split_ifs with hlong
      · rfl
      · rw [List.take_of_length_le (by omega)]
    have hdomain : addr.take 255 ≠ [] := by
      simpa only [ne_eq, List.take_eq_nil_iff, OfNat.ofNat_ne_zero, false_or] using hne
    have hlen : (addr.take 255).length ≤ 255 := by
      rw [List.length_take]
      omega
    dsimp only
    rw [hclamp]
    exact ⟨3, _, rfl, fun rest => readSocks5Addr_domain hdomain hlen rest⟩

lemma toNat_ofInt (n : ℕ) : (UInt8.ofInt (n : ℤ)).toNat = n % 256 := by
  rw [UInt8.ofInt, UInt8.toNat_ofNat']
  omega

lemma beGet_port {port : ℤ} (hlow : 0 ≤ port) (hhigh : port ≤ 65535) :
    (beGet [UInt8.ofInt (port >>> (8 : ℕ)), UInt8.ofInt port] : ℤ) = port := by
  obtain ⟨n, rfl⟩ := Int.eq_ofNat_of_zero_le hlow
  have hshift : (n : ℤ) >>> (8 : ℕ) = ((n / 256 : ℕ) : ℤ) := Int.shiftRight_eq_div_pow _ _
  simp only [beGet, hshift, toNat_ofInt, List.length_cons, List.length_nil]
  omega

/-- **The reader takes exactly the bytes that are written for an admitted target** and finds its
port. -/
theorem socks5Request_socks5ConnectRequest {r : ConnectRequest} (hvalid : r.validate = .ok ())
    (rest : Bytes) :
    socks5Request (socks5ConnectRequest r.addr r.port ++ rest) =
      .ok ((hostRead r.addr, r.port), rest) := by
  obtain ⟨hne, hlow, hhigh⟩ := validate_ok hvalid
  obtain ⟨addrType, body, hwritten, hread⟩ := readSocks5Addr_socks5Address hne
  have hbytes : socks5ConnectRequest r.addr r.port ++ rest =
      [5, 1, 0, addrType] ++ (body ++
        ([UInt8.ofInt (r.port >>> (8 : ℕ)), UInt8.ofInt r.port] ++ rest)) := by
    rw [socks5ConnectRequest, hwritten]
    simp only [List.cons_append, List.append_assoc, List.nil_append]
  have hport := beGet_port (by omega) hhigh
  have hheader : readFull "read socks5 request" 4 ([5, 1, 0, addrType] ++ (body ++
      ([UInt8.ofInt (r.port >>> (8 : ℕ)), UInt8.ofInt r.port] ++ rest))) =
        .ok ([5, 1, 0, addrType], _) :=
    readFull_append _ [5, 1, 0, addrType] _ rfl
  have hportBytes : readFull "read socks5 port" 2
      ([UInt8.ofInt (r.port >>> (8 : ℕ)), UInt8.ofInt r.port] ++ rest) = .ok (_, rest) :=
    readFull_append _ [_, _] rest rfl
  rw [hbytes, socks5Request, ConnReader.bind_of_ok hheader]
  show (readSocks5Addr addrType >>= _) _ = _
  rw [ConnReader.bind_of_ok (hread _), ConnReader.bind_of_ok hportBytes]
  show Except.ok ((hostRead r.addr, (beGet _ : ℤ)), rest) = _
  rw [hport]

lemma sameHost_hostRead (addr : Bytes) :
    SameHost addr (hostRead addr) ↔ (parseIP addr).isSome ∨ addr.length ≤ 255 := by
  rw [SameHost, hostRead]
  cases hip : parseIP addr with
  | some ip =>
    have hlen := length_parseIP hip
    have hsame : parseIP (ipString ((to4 ip).getD ip)) = some ip := by
      cases hto4 : to4 ip with
      | some ip4 =>
        rw [to4, if_neg (by omega)] at hto4
        split_ifs at hto4 with hmapped
        rw [Option.getD_some, ← Option.some.inj hto4,
          parseIP_ipString (.inl (by rw [List.length_drop, hlen])), to16,
          if_pos (by rw [List.length_drop, hlen]), ← hmapped.2, List.take_append_drop]
      | none => rw [Option.getD_none, parseIP_ipString (.inr hlen), to16, if_neg (by omega),
          if_pos hlen]
    exact iff_of_true hsame (.inl rfl)
  | none => simp [List.take_eq_self_iff]

/-- **The request for an admitted target** is read back to the last byte and with its port, and
names the host that was asked for exactly if that is an address or has at most 255 bytes. -/
theorem connect_request_agrees (r : ConnectRequest) (hvalid : r.validate = .ok ()) :
    (∀ rest, ∃ host, socks5Request (socks5ConnectRequest r.addr r.port ++ rest) =
      .ok ((host, r.port), rest)) ∧
    (Agrees r ↔ (parseIP r.addr).isSome ∨ r.addr.length ≤ 255) := by
  have hread := socks5Request_socks5ConnectRequest hvalid
  refine ⟨fun rest => ⟨_, hread rest⟩, ?_⟩
  rw [← sameHost_hostRead]
  constructor
  · intro hagrees
    obtain ⟨host, hrun, hsame⟩ := hagrees []
    rw [hread] at hrun
    cases hrun
    exact hsame
  · intro hsame rest
    exact ⟨_, hread rest, hsame⟩

/-- A target with an address of IPv6. -/
theorem connect_request_agrees_v6 :
    Agrees ⟨ascii "connect", ascii "2001:db8::1", 443⟩ :=
  (connect_request_agrees ⟨ascii "connect", ascii "2001:db8::1", 443⟩
    (by decide +kernel)).2.2 (.inl (by decide +kernel))

/-- A name of 256 bytes is admitted, and the request asks for another one. -/
theorem long_host_cut_off :
    (ConnectRequest.mk (ascii "connect") (List.replicate 256 97) 443).validate = .ok () ∧
    socks5Request (socks5ConnectRequest (List.replicate 256 97) 443) =
      .ok ((List.replicate 255 97, 443), []) ∧
    ¬ SameHost (List.replicate 256 97) (List.replicate 255 97) := by
  decide +kernel

end OlcRtc.Socks
